import Mathlib.Logic.ExistsUnique
import Mathlib.Tactic.ByContra

/-!
Contract: several tables with common keys.

Each value has a key of its own. A table holds a value only at that key, and two tables
share no key, so a value has one entry at most. Values go from table to table, and
some of them must always have an entry.

Owns: families of tables (`Tables`), putting and dropping an entry, and what the two
keep: entries that fit (`Tables.Keyed`) and values with an entry (`Tables.Covers`).

Does not own: how a table is stored.
-/

set_option autoImplicit false

/-- Tables by their place. -/
def Tables (Place Key Value : Type) : Type := Place → Key → Option Value

namespace Tables

variable {Place Key Value : Type} [DecidableEq Place] [DecidableEq Key]

def put (tables : Tables Place Key Value) (place : Place) (k : Key) (value : Value) :
    Tables Place Key Value := fun other l =>
  if other = place ∧ l = k then some value else tables other l

def drop (tables : Tables Place Key Value) (place : Place) (k : Key) :
    Tables Place Key Value := fun other l =>
  if other = place ∧ l = k then none else tables other l

/-- Entries are live values at their own keys, and two tables share no key. -/
structure Keyed (tables : Tables Place Key Value) (key : Value → Key) (live : Value → Prop) :
    Prop where
  owner : ∀ {place k value}, tables place k = some value → key value = k ∧ live value
  apart : ∀ {place other k value another}, tables place k = some value →
    tables other k = some another → place = other

/-- Every live value has an entry. -/
def Covers (tables : Tables Place Key Value) (key : Value → Key) (live : Value → Prop) : Prop :=
  ∀ value, live value → ∃ place, tables place (key value) = some value

variable {tables less : Tables Place Key Value} {key : Value → Key} {live still : Value → Prop}
  {place other : Place} {k l : Key} {value another : Value}

/-! ### Entries -/

theorem put_same : tables.put place k value place k = some value := if_pos ⟨rfl, rfl⟩

theorem drop_same : tables.drop place k place k = none := if_pos ⟨rfl, rfl⟩

theorem put_cases (found : tables.put place k value other l = some another) :
    other = place ∧ l = k ∧ another = value ∨ tables other l = some another := by
  unfold put at found
  split at found
  · rename_i same
    exact .inl ⟨same.1, same.2, (Option.some.inj found).symm⟩
  · exact .inr found

theorem put_other (different : ¬ (other = place ∧ l = k)) :
    tables.put place k value other l = tables other l := if_neg different

theorem drop_other (different : ¬ (other = place ∧ l = k)) :
    tables.drop place k other l = tables other l := if_neg different

theorem drop_some (found : tables.drop place k other l = some value) :
    tables other l = some value := by
  unfold drop at found
  split at found
  · cases found
  · exact found

/-! ### Keyed tables -/

omit [DecidableEq Place] [DecidableEq Key] in
/-- A value has one entry at most. -/
theorem Keyed.unique (keyed : Keyed tables key live) (first : tables place k = some value)
    (second : tables other l = some value) : place = other ∧ k = l := by
  have same : k = l := (keyed.owner first).1.symm.trans (keyed.owner second).1
  rw [← same] at second
  exact ⟨keyed.apart first second, same⟩

omit [DecidableEq Place] [DecidableEq Key] in
/-- Fewer entries, of values that are still live. -/
theorem Keyed.fewer (keyed : Keyed tables key live)
    (kept : ∀ {place k value}, less place k = some value →
      tables place k = some value ∧ still value) : Keyed less key still where
  owner found := ⟨(keyed.owner (kept found).1).1, (kept found).2⟩
  apart found others := keyed.apart (kept found).1 (kept others).1

omit [DecidableEq Place] [DecidableEq Key] in
/-- The keys of live values count. -/
theorem Keyed.rekey {newKey : Value → Key} (keyed : Keyed tables key live)
    (same : ∀ value, live value → newKey value = key value)
    (kept : ∀ value, live value → still value) : Keyed tables newKey still where
  owner found :=
    ⟨(same _ (keyed.owner found).2).trans (keyed.owner found).1, kept _ (keyed.owner found).2⟩
  apart := keyed.apart

theorem Keyed.drop (keyed : Keyed tables key live) : Keyed (tables.drop place k) key live :=
  keyed.fewer fun found => ⟨drop_some found, (keyed.owner (drop_some found)).2⟩

theorem Keyed.put (keyed : Keyed tables key live) (ofKey : key value = k) (isLive : live value)
    (free : ∀ other, other ≠ place → tables other k = none) :
    Keyed (tables.put place k value) key live where
  owner found := by
    rcases put_cases found with ⟨-, rfl, rfl⟩ | before
    · exact ⟨ofKey, isLive⟩
    · exact keyed.owner before
  apart found others := by
    rcases put_cases found with ⟨rfl, rfl, -⟩ | before <;>
      rcases put_cases others with ⟨rfl, same, -⟩ | behind
    · rfl
    · by_contra different
      rw [free _ (Ne.symm different)] at behind
      cases behind
    · by_contra different
      rw [same, free _ different] at before
      cases before
    · exact keyed.apart before behind

/-- Behind its own entry a value is nowhere else. -/
theorem Keyed.drop_free (keyed : Keyed tables key live) (there : tables place k = some value)
    (other : Place) : tables.drop place k other k = none := by
  by_cases same : other = place
  · rw [same]
    exact drop_same
  · rw [drop_other fun both => same both.1]
    by_contra found
    obtain ⟨another, found⟩ := Option.ne_none_iff_exists'.mp found
    exact same (keyed.apart found there)

/-! ### Covering tables -/

theorem Covers.put (covers : Covers tables key live) (ofKey : key value = k)
    (free : tables place k = none) (others : ∀ another, still another → another ≠ value →
      live another) : Covers (tables.put place k value) key still := by
  intro another isStill
  by_cases same : another = value
  · rw [same, ofKey]
    exact ⟨place, put_same⟩
  · obtain ⟨there, found⟩ := covers another (others another isStill same)
    refine ⟨there, ?_⟩
    rw [put_other]
    · exact found
    · rintro ⟨rfl, atKey⟩
      rw [atKey, free] at found
      cases found

/-- An entry of a value that need not have one is dropped. -/
theorem Covers.drop (covers : Covers tables key live) (there : tables place k = some value)
    (others : ∀ another, still another → live another ∧ another ≠ value) :
    Covers (tables.drop place k) key still := by
  intro another isStill
  obtain ⟨isLive, different⟩ := others another isStill
  obtain ⟨other, found⟩ := covers another isLive
  refine ⟨other, ?_⟩
  rw [drop_other]
  · exact found
  · rintro ⟨rfl, atKey⟩
    rw [atKey, there] at found
    exact different (Option.some.inj found).symm

/-- An entry that is not there is dropped. -/
theorem drop_none (none : tables place k = none) : tables.drop place k = tables := by
  funext other l
  by_cases same : other = place ∧ l = k
  · obtain ⟨rfl, rfl⟩ := same
    rw [drop_same, none]
  · exact drop_other same

end Tables
