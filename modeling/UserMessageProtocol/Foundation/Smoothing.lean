import Mathlib.Algebra.Order.Field.Basic
import Mathlib.Data.List.Induction
import Mathlib.Tactic.Linarith
import Mathlib.Tactic.Ring
import UserMessageProtocol.Foundation.Rounding

/-!
Contract: smoothed estimates of a quantity that is sampled.

Owns: the average that moves towards each sample by part of the difference (`smooth`), the
pair of a mean and a mean deviation kept that way up to an error in each step (`Estimate`),
how close both come to samples that lie close to a target (`Estimate.mean_close`,
`Estimate.deviation_close`), and the average in floating point (`FloatFormat.Number.smoothed`).

Does not own: where the samples come from.
-/

set_option autoImplicit false

section Smoothing

variable {K : Type} [Field K] [LinearOrder K] [IsStrictOrderedRing K]

/-- The average behind one more sample. -/
def smooth (gain average sample : K) : K := average + gain * (sample - average)

section Average

variable {gain average sample target spread : K}

/-- Smoothing brings the average closer to a target, up to the distance of the sample. -/
theorem abs_smooth_sub_le (nonneg : 0 ≤ gain) (small : gain ≤ 1) :
    |smooth gain average sample - target| ≤
      (1 - gain) * |average - target| + gain * |sample - target| := by
  have parts : smooth gain average sample - target =
      (1 - gain) * (average - target) + gain * (sample - target) := by
    unfold smooth
    ring
  rw [parts]
  refine (abs_add_le _ _).trans_eq ?_
  rw [abs_mul, abs_mul, abs_of_nonneg nonneg, abs_of_nonneg (sub_nonneg.mpr small)]

end Average

/-! ### Mean and deviation -/

/-- A mean and how far samples lie from it. -/
@[ext] structure Estimate (K : Type) where
  mean : K
  deviation : K

namespace Estimate

variable {g h target spread : K} {e : Estimate K} {samples : List K} {sample : K}

/-- The estimate behind one more sample: the mean with gain `g`, and the deviation, taken
from the mean before, with gain `h`. -/
def take (g h : K) (e : Estimate K) (sample : K) : Estimate K where
  mean := smooth g e.mean sample
  deviation := smooth h e.deviation |sample - e.mean|

/-- A step from one estimate to the next that misses each part by at most `error`. -/
structure Takes (g h error : K) (e : Estimate K) (sample : K) (next : Estimate K) : Prop where
  mean : |next.mean - (take g h e sample).mean| ≤ error
  deviation : |next.deviation - (take g h e sample).deviation| ≤ error

/-- Such steps for one sample after another. -/
inductive TakesAll (g h error : K) (start : Estimate K) : List K → Estimate K → Prop where
  | none : TakesAll g h error start [] start
  | one {samples : List K} {e next : Estimate K} {sample : K}
      (others : TakesAll g h error start samples e) (takes : Takes g h error e sample next) :
      TakesAll g h error start (samples ++ [sample]) next

variable {error : K} {last : Estimate K}

/-- Samples within `spread` of a target bring the mean to it but for the spread and for what
the errors add up to. -/
theorem mean_close (positive : 0 < g) (small : g ≤ 1) (spreads : 0 ≤ spread) (errs : 0 ≤ error)
    (taken : TakesAll g h error e samples last)
    (within : ∀ sample ∈ samples, |sample - target| ≤ spread) :
    |last.mean - target| ≤
      (1 - g) ^ samples.length * |e.mean - target| + spread + error / g := by
  have rest : 0 ≤ 1 - g := sub_nonneg.mpr small
  induction taken with
  | none =>
      have added : 0 ≤ error / g := div_nonneg errs positive.le
      rw [List.length_nil, pow_zero, one_mul]
      linarith
  | @one samples e' next sample others takes inductionHypothesis =>
      have before := inductionHypothesis fun other member =>
        within other (List.mem_append_left _ member)
      have here := within sample (by simp)
      have settles : g * (error / g) = error := mul_div_cancel₀ error positive.ne'
      rw [List.length_append, List.length_singleton, pow_succ]
      calc |next.mean - target|
          ≤ |next.mean - (take g h e' sample).mean| + |(take g h e' sample).mean - target| :=
            abs_sub_le _ _ _
        _ ≤ error + ((1 - g) * |e'.mean - target| + g * |sample - target|) :=
            add_le_add takes.mean (abs_smooth_sub_le positive.le small)
        _ ≤ error + ((1 - g) *
              ((1 - g) ^ samples.length * |e.mean - target| + spread + error / g) + g * spread) :=
            add_le_add_right (add_le_add (mul_le_mul_of_nonneg_left before rest)
              (mul_le_mul_of_nonneg_left here positive.le)) error
        _ = (1 - g) ^ samples.length * (1 - g) * |e.mean - target| + spread + error / g +
              (error - g * (error / g)) := by ring
        _ = _ := by rw [settles, sub_self, add_zero]

/-- The deviation goes down to twice the spread, but for the errors: it forgets its start as
fast as its own gain says, and the start of the mean as fast as the mean does. -/
theorem deviation_close (positive : 0 < g) (faster : g < h) (small : h ≤ 1) (spreads : 0 ≤ spread)
    (errs : 0 ≤ error) (taken : TakesAll g h error e samples last)
    (within : ∀ sample ∈ samples, |sample - target| ≤ spread) :
    last.deviation ≤
      (1 - h) ^ samples.length * e.deviation +
        h / (h - g) * ((1 - g) ^ samples.length * |e.mean - target|) + 2 * spread +
        (error / g + error / h) := by
  have gap : 0 < h - g := sub_pos.mpr faster
  have hPositive : 0 < h := positive.trans faster
  have rest : 0 ≤ 1 - h := sub_nonneg.mpr small
  induction taken with
  | none =>
      have start : 0 ≤ h / (h - g) * |e.mean - target| :=
        mul_nonneg (div_nonneg hPositive.le gap.le) (abs_nonneg _)
      have added : 0 ≤ error / g + error / h :=
        add_nonneg (div_nonneg errs positive.le) (div_nonneg errs hPositive.le)
      simp only [List.length_nil, pow_zero, one_mul]
      linarith
  | @one samples e' next sample others takes inductionHypothesis =>
      have inside : ∀ other ∈ samples, |other - target| ≤ spread := fun other member =>
        within other (List.mem_append_left _ member)
      have before := inductionHypothesis inside
      have here := within sample (by simp)
      have mean := mean_close positive (faster.le.trans small) spreads errs others inside
      have apart : |sample - e'.mean| ≤
          (1 - g) ^ samples.length * |e.mean - target| + 2 * spread + error / g := by
        have around := abs_sub_le sample target e'.mean
        rw [abs_sub_comm target] at around
        linarith
      have weight : h / (h - g) * (h - g) = h := div_mul_cancel₀ h gap.ne'
      have settles : h * (error / h) = error := mul_div_cancel₀ error hPositive.ne'
      have exact' : (take g h e' sample).deviation =
          (1 - h) * e'.deviation + h * |sample - e'.mean| := by
        show smooth h _ _ = _
        unfold smooth
        ring
      have missed := (abs_le.mp takes.deviation).2
      rw [exact'] at missed
      rw [List.length_append, List.length_singleton]
      calc next.deviation
          ≤ (1 - h) * e'.deviation + h * |sample - e'.mean| + error := by linarith
        _ ≤ (1 - h) * ((1 - h) ^ samples.length * e.deviation +
                h / (h - g) * ((1 - g) ^ samples.length * |e.mean - target|) + 2 * spread +
                (error / g + error / h)) +
              h * ((1 - g) ^ samples.length * |e.mean - target| + 2 * spread + error / g) +
              error :=
            add_le_add_left (add_le_add (mul_le_mul_of_nonneg_left before rest)
              (mul_le_mul_of_nonneg_left apart hPositive.le)) error
        _ = (1 - h) ^ (samples.length + 1) * e.deviation +
              h / (h - g) * ((1 - g) ^ (samples.length + 1) * |e.mean - target|) + 2 * spread +
              (error / g + error / h) +
              (h - h / (h - g) * (h - g)) * ((1 - g) ^ samples.length * |e.mean - target|) +
              (error - h * (error / h)) := by
            ring
        _ = _ := by rw [weight, settles, sub_self, sub_self, zero_mul, add_zero, add_zero]

end Estimate

end Smoothing

/-! ### In floating point -/

namespace FloatFormat.Number

variable {format : FloatFormat}

/-- The average with each result rounded. -/
def smoothed (gain average sample : format.Number) : format.Number :=
  average + gain * (sample - average)

section Smoothed

variable {gain average sample : format.Number}

/-- Rounding takes no average of numbers that are not negative below zero. -/
theorem smoothed_nonneg (positive : 0 ≤ gain.value) (small : gain.value ≤ 1 / 4)
    (above : 0 ≤ average.value) (sampled : 0 ≤ sample.value) :
    0 ≤ (smoothed gain average sample).value := by
  have difference : -(2 * average.value) ≤ (sample - average).value :=
    neg_le_round above (by linarith)
  have part : -(1 / 2 * average.value) ≤ gain.value * (sample - average).value := by
    calc -(1 / 2 * average.value) = 1 / 4 * -(2 * average.value) := by ring
      _ ≤ gain.value * -(2 * average.value) :=
          mul_le_mul_of_nonpos_right small (by linarith)
      _ ≤ gain.value * (sample - average).value := mul_le_mul_of_nonneg_left difference positive
  have rounded : -(2 * (1 / 2 * average.value)) ≤ (gain * (sample - average)).value :=
    neg_le_round (by linarith) part
  exact round_nonneg (by linarith)

/-- How far the rounded average misses, for numbers up to a bound. -/
theorem smoothed_close {k : Int} (positive : 0 ≤ gain.value) (small : gain.value ≤ 1 / 4)
    (averaged : |average.value| ≤ 2 ^ k) (sampled : |sample.value| ≤ 2 ^ k)
    (normal : format.least + format.precision ≤ k + 1) :
    |(smoothed gain average sample).value - smooth gain.value average.value sample.value| ≤
      6 * 2 ^ (k - format.precision) := by
  have two : (2 : Rat) ≠ 0 := two_ne_zero
  have up (j : Int) : (2 : Rat) ^ (j + 1) = 2 ^ j * 2 := zpow_add_one₀ two j
  have apart : |sample.value - average.value| ≤ 2 ^ (k + 1) := by
    have triangle := abs_sub sample.value average.value
    rw [up]
    linarith
  have first : |(sample - average).value - (sample.value - average.value)| ≤
      2 ^ (k + 1 - format.precision) := abs_round_sub_le apart (by omega)
  have second : |gain.value * (sample - average).value| ≤ 2 ^ k := by
    have difference : |(sample - average).value| ≤ 2 * |sample.value - average.value| :=
      abs_round_le format _
    have part : |gain.value * (sample - average).value| ≤ 1 / 4 * |(sample - average).value| := by
      rw [abs_mul, abs_of_nonneg positive]
      exact mul_le_mul_of_nonneg_right small (abs_nonneg _)
    rw [up] at apart
    linarith
  have rounded : |(gain * (sample - average)).value - gain.value * (sample - average).value| ≤
      2 ^ (k - format.precision) := abs_round_sub_le second normal
  have third : |average.value + (gain * (sample - average)).value| ≤ 2 ^ (k + 2) := by
    have product : |(gain * (sample - average)).value| ≤
        2 * |gain.value * (sample - average).value| := abs_round_le format _
    have triangle := abs_add_le average.value (gain * (sample - average)).value
    have least : (0 : Rat) ≤ 2 ^ k := by positivity
    rw [show k + 2 = k + 1 + 1 by ring, up, up]
    linarith
  have summed : |(smoothed gain average sample).value -
      (average.value + (gain * (sample - average)).value)| ≤ 2 ^ (k + 2 - format.precision) :=
    abs_round_sub_le third (by omega)
  have scaled : |gain.value * (sample - average).value -
      gain.value * (sample.value - average.value)| ≤ 1 / 4 * 2 ^ (k + 1 - format.precision) := by
    rw [← mul_sub, abs_mul, abs_of_nonneg positive]
    exact mul_le_mul small first (abs_nonneg _) (by norm_num)
  rw [show k + 1 - (format.precision : Int) = k - format.precision + 1 by ring, up] at scaled
  rw [show k + 2 - (format.precision : Int) = k - format.precision + 1 + 1 by ring, up, up]
    at summed
  have least : (0 : Rat) ≤ 2 ^ (k - (format.precision : Int)) := by positivity
  unfold smooth
  rw [abs_le] at summed rounded scaled ⊢
  constructor <;> linarith [summed.1, summed.2, rounded.1, rounded.2, scaled.1, scaled.2]

end Smoothed

end FloatFormat.Number
