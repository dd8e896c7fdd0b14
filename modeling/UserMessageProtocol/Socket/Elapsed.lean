import UserMessageProtocol.Socket.Clock

/-!
Contract: what the 32-bit time arithmetic means.

Owns: readings in Unix time (`GTimeVal.Unix`), clocks that do not go back
(`Clock.Lawful`), times in microseconds, and when `ump_time_sub` and
`g_time_val_add` compute the difference and the sum.

Does not own: what is decided with them.
-/

set_option autoImplicit false

namespace UserMessageProtocol

theorem glong_eq {value : Int} (low : -2147483648 ≤ value) (high : value < 2147483648) :
    glong value = value := by
  rw [glong, Int.bmod_eq_of_le] <;> omega

/-- A wrapped value differs by whole turns. -/
theorem glong_turns (value : Int) : ∃ turns : Int, glong value = value - 4294967296 * turns := by
  have congruent : 4294967296 ∣ value - glong value := by
    unfold glong
    exact Int.dvd_self_sub_bmod
  obtain ⟨turns, difference⟩ := congruent
  exact ⟨turns, by omega⟩

theorem glong_range (value : Int) : -2147483648 ≤ glong value ∧ glong value < 2147483648 := by
  unfold glong
  have low := @Int.le_bmod value 4294967296 (by decide)
  have high := @Int.bmod_lt value 4294967296 (by decide)
  omega

namespace GTimeVal

/-- A time after 1970 that fits 32 bits. -/
structure Unix (t : GTimeVal) : Prop where
  started : 0 ≤ t.tvSec
  fits : t.tvSec < 2147483648
  usec : 0 ≤ t.tvUsec
  second : t.tvUsec < 1000000

instance (t : GTimeVal) : Decidable t.Unix :=
  decidable_of_iff (0 ≤ t.tvSec ∧ t.tvSec < 2147483648 ∧ 0 ≤ t.tvUsec ∧ t.tvUsec < 1000000)
    ⟨fun h => ⟨h.1, h.2.1, h.2.2.1, h.2.2.2⟩, fun h => ⟨h.started, h.fits, h.usec, h.second⟩⟩

def micros (t : GTimeVal) : Int := t.tvSec * 1000000 + t.tvUsec

theorem unix_zero : Unix ⟨0, 0⟩ := by decide

theorem Unix.micros_nonneg {t : GTimeVal} (unix : t.Unix) : 0 ≤ t.micros := by
  have := unix.started
  have := unix.usec
  unfold micros
  omega

@[simp] theorem micros_zero : micros ⟨0, 0⟩ = 0 := rfl

end GTimeVal

/-! ### Differences -/

/-- The milliseconds from `t2` to `t1` as `ump_time_sub` rounds them. -/
def elapsedMs (t1 t2 : GTimeVal) : Int :=
  (t1.tvSec - t2.tvSec) * 1000 + (t1.tvUsec - t2.tvUsec).tdiv 1000

section Difference

variable {t1 t2 : GTimeVal}

/-- `ump_time_sub` is the difference up to whole turns of 2^32 milliseconds. -/
theorem umpTimeSub_wraps (usec : glong (t1.tvUsec - t2.tvUsec) = t1.tvUsec - t2.tvUsec) :
    umpTimeSub t1 t2 = glong (elapsedMs t1 t2) := by
  unfold umpTimeSub elapsedMs
  dsimp only
  rw [usec]
  unfold glong
  rw [Int.bmod_add_bmod, Int.add_bmod, Int.bmod_mul_bmod, ← Int.add_bmod]

theorem umpTimeSub_eq (unix1 : t1.Unix) (unix2 : t2.Unix) :
    umpTimeSub t1 t2 = glong (elapsedMs t1 t2) := by
  have := unix1.usec
  have := unix1.second
  have := unix2.usec
  have := unix2.second
  exact umpTimeSub_wraps (glong_eq (by omega) (by omega))

theorem umpTimeSub_exact (unix1 : t1.Unix) (unix2 : t2.Unix) (low : -2147483648 ≤ elapsedMs t1 t2)
    (high : elapsedMs t1 t2 < 2147483648) : umpTimeSub t1 t2 = elapsedMs t1 t2 := by
  rw [umpTimeSub_eq unix1 unix2, glong_eq low high]

/-- Rounding is towards zero. -/
theorem tdiv_cases (usec : Int) :
    (0 ≤ usec ∧ usec.tdiv 1000 = usec / 1000) ∨ (usec < 0 ∧ usec.tdiv 1000 = -(-usec / 1000)) := by
  by_cases positive : 0 ≤ usec
  · exact .inl ⟨positive, Int.tdiv_eq_ediv_of_nonneg positive⟩
  · have opposite : (-usec).tdiv 1000 = -usec / 1000 := Int.tdiv_eq_ediv_of_nonneg (by omega)
    rw [Int.neg_tdiv] at opposite
    exact .inr ⟨by omega, by omega⟩

/-- The rounding is by less than a millisecond. -/
theorem elapsedMs_bounds (t1 t2 : GTimeVal) :
    1000 * elapsedMs t1 t2 - 1000 < t1.micros - t2.micros ∧
      t1.micros - t2.micros < 1000 * elapsedMs t1 t2 + 1000 := by
  unfold elapsedMs GTimeVal.micros
  rcases tdiv_cases (t1.tvUsec - t2.tvUsec) with ⟨_, part⟩ | ⟨_, part⟩ <;> omega

/-- Rounding keeps the order of times. -/
theorem elapsedMs_mono {t t' base : GTimeVal} (unix : t.Unix) (unix' : t'.Unix)
    (order : t.micros ≤ t'.micros) : elapsedMs t base ≤ elapsedMs t' base := by
  have := unix.second
  have := unix.usec
  have := unix'.usec
  have := unix'.second
  unfold elapsedMs
  unfold GTimeVal.micros at order
  rcases tdiv_cases (t.tvUsec - base.tvUsec) with ⟨_, part⟩ | ⟨_, part⟩ <;>
    rcases tdiv_cases (t'.tvUsec - base.tvUsec) with ⟨_, part'⟩ | ⟨_, part'⟩ <;> omega

theorem elapsedMs_nonneg {t base : GTimeVal} (unix : t.Unix) (unix' : base.Unix)
    (order : base.micros ≤ t.micros) : 0 ≤ elapsedMs t base := by
  have same : elapsedMs base base = 0 := by simp [elapsedMs]
  rw [← same]
  exact elapsedMs_mono unix' unix order

end Difference

/-! ### Sums -/

/-- `g_time_val_add` adds, up to whole turns of 2^32 seconds. -/
theorem gTimeValAdd_turns (t : GTimeVal) (microseconds : Int) :
    ∃ turns : Int, (gTimeValAdd t microseconds).micros =
      t.micros + microseconds - 4294967296000000 * turns := by
  unfold gTimeValAdd G_USEC_PER_SEC GTimeVal.micros
  dsimp only
  split
  · split
    · obtain ⟨turns, wrapped⟩ := glong_turns (t.tvSec + microseconds / 1000000 + 1)
      exact ⟨turns, by dsimp only; omega⟩
    · obtain ⟨turns, wrapped⟩ := glong_turns (t.tvSec + microseconds / 1000000)
      exact ⟨turns, by dsimp only; omega⟩
  · split
    · obtain ⟨turns, wrapped⟩ := glong_turns (t.tvSec - -microseconds / 1000000 - 1)
      exact ⟨turns, by dsimp only; omega⟩
    · obtain ⟨turns, wrapped⟩ := glong_turns (t.tvSec - -microseconds / 1000000)
      exact ⟨turns, by dsimp only; omega⟩

theorem gTimeValAdd_usec (t : GTimeVal) (unix : t.Unix) (microseconds : Int) :
    0 ≤ (gTimeValAdd t microseconds).tvUsec ∧ (gTimeValAdd t microseconds).tvUsec < 1000000 := by
  have := unix.usec
  have := unix.second
  unfold gTimeValAdd G_USEC_PER_SEC
  dsimp only
  split <;> split <;> dsimp only <;> omega

theorem gTimeValAdd_sec (t : GTimeVal) (microseconds : Int) :
    -2147483648 ≤ (gTimeValAdd t microseconds).tvSec ∧
      (gTimeValAdd t microseconds).tvSec < 2147483648 := by
  unfold gTimeValAdd
  dsimp only
  split <;> split <;> exact glong_range _

/-- The sum is exact if it can be represented. -/
theorem gTimeValAdd_micros_iff (t : GTimeVal) (unix : t.Unix) (microseconds : Int) :
    (gTimeValAdd t microseconds).micros = t.micros + microseconds ↔
      -2147483648000000 ≤ t.micros + microseconds ∧
        t.micros + microseconds < 2147483648000000 := by
  have usec := gTimeValAdd_usec t unix microseconds
  have sec := gTimeValAdd_sec t microseconds
  obtain ⟨turns, sum⟩ := gTimeValAdd_turns t microseconds
  generalize gTimeValAdd t microseconds = result at usec sec sum
  unfold GTimeVal.micros at *
  omega

/-! ### Clocks -/

namespace Clock

/-- The clocks of the platform: readings are Unix times and do not go back. -/
structure Lawful (clock : Clock) : Prop where
  unix : ∀ n, (clock.readings n).Unix
  forward : ∀ n, (clock.readings n).micros ≤ (clock.readings (n + 1)).micros

theorem Lawful.mono {clock : Clock} (lawful : clock.Lawful) {m n : Nat} (order : m ≤ n) :
    (clock.readings m).micros ≤ (clock.readings n).micros := by
  induction order with
  | refl => exact Int.le_refl _
  | step _ inductionHypothesis => exact Int.le_trans inductionHypothesis (lawful.forward _)

/-- A clock that stands still. -/
def stopped (t : GTimeVal) : Clock := ⟨fun _ => t, 0⟩

theorem stopped_lawful {t : GTimeVal} (unix : t.Unix) : (stopped t).Lawful where
  unix := fun _ => unix
  forward := fun _ => Int.le_refl _

end Clock

end UserMessageProtocol
