import Mathlib.Data.List.Basic

/-!
Contract: a list cut behind each element that ends a group.

Owns: the groups (`cuts`), the groups that have an end (`Closed`), and how both come
apart where a group ends.

Does not own: what the elements are.
-/

set_option autoImplicit false

namespace Cuts

variable {α : Type} (ends : α → Bool)

/-- The groups of a list: each one but perhaps the last ends with an element that ends
groups. -/
def cuts : List α → List (List α)
  | [] => []
  | x :: rest =>
      if ends x then [x] :: cuts rest
      else
        match cuts rest with
        | [] => [[x]]
        | group :: groups => (x :: group) :: groups

/-- A group with its end. -/
def Closed (group : List α) : Prop :=
  ∃ front last, group = front ++ [last] ∧ ends last = true ∧ ∀ x ∈ front, ends x = false

/-- The groups of a list that have their end. -/
def closedGroups (list : List α) : List (List α) :=
  (cuts ends list).filter fun group => group.any ends

variable {ends} {group list : List α}

theorem Closed.ne_nil (closed : Closed ends group) : group ≠ [] := by
  obtain ⟨front, last, rfl, -⟩ := closed
  simp

theorem Closed.any (closed : Closed ends group) : group.any ends = true := by
  obtain ⟨front, last, rfl, ended, -⟩ := closed
  simp [ended]

theorem Closed.map {β : Type} {f : α → β} {ends' : β → Bool} (closed : Closed ends group)
    (same : ∀ x, ends' (f x) = ends x) : Closed ends' (group.map f) := by
  obtain ⟨front, last, rfl, ended, others⟩ := closed
  refine ⟨front.map f, f last, by simp, (same last).trans ended, ?_⟩
  intro y member
  obtain ⟨x, inside, rfl⟩ := List.mem_map.mp member
  exact (same x).trans (others x inside)

theorem Closed.countP (closed : Closed ends group) : group.countP ends = 1 := by
  obtain ⟨front, last, rfl, ended, others⟩ := closed
  rw [List.countP_append, List.countP_eq_zero.mpr (by simpa using others)]
  simp [ended]

/-- The first group is cut off. -/
theorem cuts_append (closed : Closed ends group) (list : List α) :
    cuts ends (group ++ list) = group :: cuts ends list := by
  obtain ⟨front, last, rfl, ended, others⟩ := closed
  induction front with
  | nil =>
      show cuts ends (last :: list) = [last] :: cuts ends list
      rw [cuts, if_pos ended]
  | cons x front inductionHypothesis =>
      have later := inductionHypothesis fun y member => others y (List.mem_cons_of_mem _ member)
      have plain : ends x = false := others x List.mem_cons_self
      show cuts ends (x :: (front ++ [last] ++ list)) = (x :: (front ++ [last])) :: cuts ends list
      rw [cuts, plain, if_neg (by decide), later]

theorem cuts_flatten {groups : List (List α)} (closed : ∀ group ∈ groups, Closed ends group)
    (list : List α) : cuts ends (groups.flatten ++ list) = groups ++ cuts ends list := by
  induction groups with
  | nil => rfl
  | cons group groups inductionHypothesis =>
      rw [List.flatten_cons, List.append_assoc, cuts_append (closed group List.mem_cons_self),
        inductionHypothesis fun other member => closed other (List.mem_cons_of_mem _ member)]
      rfl

/-- Groups that make the front of what others make are the first of them. -/
theorem prefix_of_flatten {groups all : List (List α)}
    (closed : ∀ group ∈ groups, Closed ends group) (closed' : ∀ group ∈ all, Closed ends group)
    (front : groups.flatten <+: all.flatten) : groups <+: all := by
  obtain ⟨rest, same⟩ := front
  have split := cuts_flatten closed rest
  have whole := cuts_flatten closed' []
  rw [same, ← List.append_nil all.flatten, whole, cuts, List.append_nil] at split
  exact ⟨cuts ends rest, split.symm⟩

/-- What has no end is one group. -/
theorem cuts_open (nonempty : list ≠ []) (open_ : ∀ x ∈ list, ends x = false) :
    cuts ends list = [list] := by
  induction list with
  | nil => exact absurd rfl nonempty
  | cons x rest inductionHypothesis =>
      rw [cuts, open_ x List.mem_cons_self, if_neg (by decide)]
      cases rest with
      | nil => rfl
      | cons y rest =>
          rw [inductionHypothesis (List.cons_ne_nil _ _)
            fun z member => open_ z (List.mem_cons_of_mem _ member)]

/-- A list with an end has a first group. -/
theorem exists_closed (some : ∃ x ∈ list, ends x = true) :
    ∃ group rest, list = group ++ rest ∧ Closed ends group := by
  induction list with
  | nil => simp at some
  | cons x rest inductionHypothesis =>
      cases ended : ends x with
      | true => exact ⟨[x], rest, rfl, [], x, rfl, ended, by simp⟩
      | false =>
          have later : ∃ y ∈ rest, ends y = true := by
            obtain ⟨y, member, yes⟩ := some
            rcases List.mem_cons.mp member with rfl | member
            · exact absurd (ended.symm.trans yes) (by decide)
            · exact ⟨y, member, yes⟩
          obtain ⟨group, behind, rfl, front, last, rfl, yes, others⟩ := inductionHypothesis later
          refine ⟨x :: (front ++ [last]), behind, rfl, x :: front, last, rfl, yes, ?_⟩
          intro y member
          rcases List.mem_cons.mp member with rfl | member
          · exact ended
          · exact others y member

theorem closedGroups_append (closed : Closed ends group) (list : List α) :
    closedGroups ends (group ++ list) = group :: closedGroups ends list := by
  unfold closedGroups
  rw [cuts_append closed, List.filter_cons, if_pos closed.any]

/-- There are as many groups with an end as there are ends. -/
theorem length_closedGroups (list : List α) :
    (closedGroups ends list).length = list.countP ends := by
  induction length : list.length using Nat.strongRecOn generalizing list with
  | ind size inductionHypothesis =>
      by_cases some : ∃ x ∈ list, ends x = true
      · obtain ⟨group, rest, rfl, closed⟩ := exists_closed some
        have shorter : rest.length < size := by
          have nonempty := List.length_pos_iff.mpr closed.ne_nil
          rw [List.length_append] at length
          omega
        have later := inductionHypothesis rest.length shorter rest rfl
        unfold closedGroups at later ⊢
        rw [cuts_append closed, List.filter_cons, if_pos closed.any, List.length_cons, later,
          List.countP_append, closed.countP, Nat.add_comm]
      · have open_ : ∀ x ∈ list, ends x = false := fun x member =>
          (Bool.not_eq_true _).mp fun yes => some ⟨x, member, yes⟩
        rw [List.countP_eq_zero.mpr (by simpa using open_)]
        unfold closedGroups
        by_cases nonempty : list = []
        · rw [nonempty]
          rfl
        · rw [cuts_open nonempty open_, List.filter_cons, if_neg (by simpa using open_)]
          rfl

/-- A group with an end has it last. -/
theorem closed_of_mem (member : group ∈ closedGroups ends list) : Closed ends group := by
  induction length : list.length using Nat.strongRecOn generalizing list with
  | ind size inductionHypothesis =>
      by_cases some : ∃ x ∈ list, ends x = true
      · obtain ⟨first, rest, rfl, closed⟩ := exists_closed some
        rw [closedGroups_append closed] at member
        rcases List.mem_cons.mp member with rfl | later
        · exact closed
        · have nonempty := List.length_pos_iff.mpr closed.ne_nil
          rw [List.length_append] at length
          exact inductionHypothesis rest.length (by omega) later rfl
      · have none : (closedGroups ends list).length = 0 := by
          rw [length_closedGroups, List.countP_eq_zero]
          exact fun x inside yes => some ⟨x, inside, yes⟩
        rw [List.eq_nil_of_length_eq_zero none] at member
        cases member

end Cuts
