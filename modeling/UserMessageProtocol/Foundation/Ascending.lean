import UserMessageProtocol.Foundation.Serial

/-!
Contract: lists of serial numbers in ascending order ahead of a base.

Owns: `Ascending`, how many numbers follow a number without a gap (`successors`), and
what both become when a number is inserted or the base moves on.

Does not own: any use of the lists.
-/

set_option autoImplicit false

namespace Serial

/-- The numbers lie ahead of the base, each one farther than those before it. -/
structure Ascending (base : UInt16) (numbers : List UInt16) : Prop where
  increasing : numbers.Pairwise fun x y => offset base x < offset base y
  ahead : ∀ x ∈ numbers, 0 < offset base x

/-- How many numbers at the front follow `last` one by one. -/
def successors : UInt16 → List UInt16 → Nat
  | _, [] => 0
  | last, x :: rest => if last + 1 = x then successors x rest + 1 else 0

variable {base x : UInt16} {numbers left right : List UInt16}

theorem Ascending.nil (base : UInt16) : Ascending base [] := ⟨.nil, by simp⟩

/-- Where a number belongs. -/
theorem Ascending.split (ascending : Ascending base numbers) (x : UInt16) :
    ∃ left right, numbers = left ++ right ∧ (∀ y ∈ left, offset base y ≤ offset base x) ∧
      ∀ y ∈ right, offset base x < offset base y := by
  obtain ⟨increasing, -⟩ := ascending
  induction numbers with
  | nil => exact ⟨[], [], rfl, by simp, by simp⟩
  | cons y rest inductionHypothesis =>
      have ⟨first, later⟩ := List.pairwise_cons.mp increasing
      by_cases behind : offset base x < offset base y
      · refine ⟨[], y :: rest, rfl, by simp, ?_⟩
        intro z member
        rcases List.mem_cons.mp member with rfl | member
        · exact behind
        · exact Int.lt_trans behind (first z member)
      · obtain ⟨left, right, split, before, after⟩ := inductionHypothesis later
        refine ⟨y :: left, right, by rw [split]; rfl, ?_, after⟩
        intro z member
        rcases List.mem_cons.mp member with rfl | member
        · exact Int.not_lt.mp behind
        · exact before z member

theorem Ascending.insert (ascending : Ascending base (left ++ right)) (ahead : 0 < offset base x)
    (before : ∀ y ∈ left, offset base y < offset base x)
    (after : ∀ y ∈ right, offset base x < offset base y) :
    Ascending base (left ++ x :: right) := by
  have ⟨lefts, rights, across⟩ := List.pairwise_append.mp ascending.increasing
  constructor
  · apply List.pairwise_append.mpr
    refine ⟨lefts, List.pairwise_cons.mpr ⟨after, rights⟩, ?_⟩
    intro y inLeft z member
    rcases List.mem_cons.mp member with rfl | inRight
    · exact before y inLeft
    · exact across y inLeft z inRight
  · intro y member
    rcases List.mem_append.mp member with inLeft | member
    · exact ascending.ahead y (List.mem_append_left _ inLeft)
    · rcases List.mem_cons.mp member with rfl | inRight
      · exact ahead
      · exact ascending.ahead y (List.mem_append_right _ inRight)

/-- Each number lies at least as far ahead as its index says. -/
theorem Ascending.index_lt (ascending : Ascending base numbers) {index : Nat}
    (inside : index < numbers.length) : (index : Int) < offset base numbers[index] := by
  induction index with
  | zero => exact ascending.ahead _ (List.getElem_mem inside)
  | succ index inductionHypothesis =>
      have before := inductionHypothesis (Nat.lt_of_succ_lt inside)
      have grows := List.pairwise_iff_getElem.mp ascending.increasing index (index + 1)
        (Nat.lt_of_succ_lt inside) inside (Nat.lt_succ_self index)
      omega

theorem successors_le (last : UInt16) (numbers : List UInt16) :
    successors last numbers ≤ numbers.length := by
  induction numbers generalizing last with
  | nil => exact Nat.le_refl 0
  | cons x rest inductionHypothesis =>
      rw [successors]
      split
      · exact Nat.succ_le_succ (inductionHypothesis x)
      · exact Nat.zero_le _

theorem successors_getElem {last : UInt16} {index : Nat} (inside : index < numbers.length)
    (within : index < successors last numbers) : numbers[index] = place last (index + 1) := by
  induction numbers generalizing last index with
  | nil => exact absurd inside (Nat.not_lt_zero _)
  | cons x rest inductionHypothesis =>
      rw [successors] at within
      split at within
      · rename_i next
        cases index with
        | zero =>
            rw [List.getElem_cons_zero, ← next]
            exact (place_natCast last 1).symm
        | succ index =>
            rw [List.getElem_cons_succ,
              inductionHypothesis (Nat.lt_of_succ_lt_succ inside) (Nat.lt_of_succ_lt_succ within),
              ← next, place_of_add_one]
            rfl
      · exact absurd within (Nat.not_lt_zero _)

/-- Behind the successors the next number is not one. -/
theorem successors_stop {last : UInt16} (inside : successors last numbers < numbers.length) :
    numbers[successors last numbers] ≠ place last (successors last numbers + 1) := by
  induction numbers generalizing last with
  | nil => exact absurd inside (Nat.not_lt_zero _)
  | cons x rest inductionHypothesis =>
      by_cases next : last + 1 = x
      · subst next
        have count : successors last ((last + 1) :: rest) = successors (last + 1) rest + 1 := by
          rw [successors, if_pos rfl]
        simp only [count] at inside ⊢
        rw [List.getElem_cons_succ]
        have later := inductionHypothesis (Nat.lt_of_succ_lt_succ inside)
        rw [place_of_add_one] at later
        exact later
      · have count : successors last (x :: rest) = 0 := by rw [successors, if_neg next]
        simp only [count, List.getElem_cons_zero]
        intro equal
        apply next
        rw [equal]
        exact (place_natCast last 1).symm

/-- The numbers behind the successors are ascending ahead of the number behind these. -/
theorem Ascending.after (ascending : Ascending base numbers) :
    Ascending (place base (successors base numbers + 1))
      (numbers.drop (successors base numbers)) := by
  have moved {x : UInt16} (member : x ∈ numbers.drop (successors base numbers)) :
      offset (place base (successors base numbers + 1)) x =
          offset base x - (successors base numbers + 1) ∧
        (successors base numbers + 1 : Int) < offset base x := by
    obtain ⟨index, inside, found⟩ := List.getElem_of_mem member
    rw [List.length_drop] at inside
    rw [List.getElem_drop] at found
    have within : successors base numbers + index < numbers.length := by omega
    have here := ascending.index_lt within
    have upper := offset_upper base x
    rw [found] at here
    -- the first number is no successor, the others lie farther ahead
    have away : offset base x ≠ successors base numbers + 1 := by
      intro equal
      have number : x = place base (successors base numbers + 1) := by
        rw [← equal, place_offset]
      cases index with
      | zero =>
          have stops : numbers[successors base numbers] ≠ _ := successors_stop (by omega)
          apply stops
          rw [← number]
          exact found
      | succ index =>
          push_cast at here
          omega
    have place : offset base (place base (successors base numbers + 1)) = _ :=
      offset_place base (by omega) (by omega)
    refine ⟨?_, by omega⟩
    rw [offset_between base (by omega) (by omega), place]
  constructor
  · apply List.Pairwise.imp_of_mem _ (ascending.increasing.drop)
    intro x y inX inY grows
    rw [(moved inX).1, (moved inY).1]
    omega
  · intro x member
    have ⟨same, far⟩ := moved member
    omega

end Serial
