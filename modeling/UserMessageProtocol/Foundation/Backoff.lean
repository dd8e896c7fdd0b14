import Mathlib.Algebra.Order.BigOperators.Group.Finset
import Mathlib.Tactic.Linarith
import Mathlib.Tactic.Ring

/-!
Contract: attempts that back off.

Owns: lists of times whose gaps have a lower bound that depends on how many attempts came
before (`Spaced`), how long such attempts take together (`Spaced.span`), and the gaps that
double (`doubling`).

Does not own: who tries what.
-/

set_option autoImplicit false

/-- Times of attempts, the latest first: an attempt behind `k + 1` others comes `gap k` or
more after the one before it. -/
def Spaced (gap : Nat → Int) : List Int → Prop
  | [] => True
  | [_] => True
  | later :: earlier :: rest => earlier + gap rest.length ≤ later ∧ Spaced gap (earlier :: rest)

namespace Spaced

variable {gap : Nat → Int} {times rest : List Int} {now last : Int}

/-- One more attempt, late enough after the latest one. -/
theorem cons (spaced : Spaced gap times)
    (late : ∀ last ∈ times.head?, last + gap (times.length - 1) ≤ now) :
    Spaced gap (now :: times) := by
  cases times with
  | nil => trivial
  | cons last rest => exact ⟨late last rfl, spaced⟩

/-- Attempts from the first to the latest take all the gaps. -/
theorem span {first : Int} (spaced : Spaced gap (last :: rest))
    (earliest : first ∈ (last :: rest).getLast?) :
    first + ∑ k ∈ Finset.range rest.length, gap k ≤ last := by
  induction rest generalizing last with
  | nil =>
      obtain rfl : last = first := by simpa using earliest
      simp
  | cons earlier rest inductionHypothesis =>
      obtain ⟨apart, before⟩ := spaced
      have whole := inductionHypothesis before (by simpa using earliest)
      rw [List.length_cons, Finset.sum_range_succ]
      linarith

end Spaced

/-- Gaps that double from `base` on, each short of that by `slack`. -/
def doubling (base slack : Int) (k : Nat) : Int := base * 2 ^ k - slack

theorem sum_doubling (base slack : Int) (n : Nat) :
    ∑ k ∈ Finset.range n, doubling base slack k = base * (2 ^ n - 1) - n * slack := by
  induction n with
  | zero => simp
  | succ n inductionHypothesis =>
      rw [Finset.sum_range_succ, inductionHypothesis]
      unfold doubling
      push_cast
      ring
