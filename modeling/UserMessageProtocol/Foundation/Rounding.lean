import Mathlib.Algebra.Order.Field.Power
import Mathlib.Algebra.Order.Field.Rat
import Mathlib.Data.Int.Log
import Mathlib.Data.Rat.Floor
import Mathlib.Tactic.Linarith
import Mathlib.Tactic.NormNum
import Mathlib.Tactic.Ring

/-!
Contract: binary floating point numbers as rational numbers.

Owns: the numbers of a format (`FloatFormat.Fits`), rounding to the nearest of them with
ties to even (`FloatFormat.round`), how far it goes, and the arithmetic that rounds each
result (`FloatFormat.Number`).

Does not own: infinities, signed zeros, or the upper end of the exponents.
-/

set_option autoImplicit false

/-- The nearest integer, and of two that are equally near the even one. -/
def nearest (x : Rat) : Int :=
  let down := ⌊x⌋
  if 2 * (x - down) < 1 then down
  else if 1 < 2 * (x - down) then down + 1
  else if down % 2 = 0 then down
  else down + 1

section Nearest

variable (x : Rat)

theorem abs_nearest_sub_le : |(nearest x : Rat) - x| ≤ 1 / 2 := by
  have low := Int.floor_le x
  unfold nearest
  dsimp only
  rw [abs_le]
  split
  · constructor <;> linarith
  · split
    · push_cast
      constructor <;> linarith [Int.lt_floor_add_one x]
    · split
      · constructor <;> linarith
      · push_cast
        constructor <;> linarith

/-- No integer lies nearer. -/
theorem nearest_closest (n : Int) : |(nearest x : Rat) - x| ≤ |(n : Rat) - x| := by
  by_cases same : nearest x = n
  · rw [same]
  · have apart : (1 : Rat) ≤ |(n : Rat) - nearest x| := by
      have integers : 1 ≤ |n - nearest x| := Int.one_le_abs (sub_ne_zero.mpr (Ne.symm same))
      exact_mod_cast integers
    have half := abs_nearest_sub_le x
    have around := abs_sub_le (n : Rat) x (nearest x)
    rw [abs_sub_comm x] at around
    linarith

end Nearest

/-- A binary format: how many digits a significand has, and the least exponent. -/
structure FloatFormat where
  precision : Nat
  least : Int
  positive : 0 < precision

namespace FloatFormat

variable (format : FloatFormat)

/-- The numbers of the format. -/
def Fits (x : Rat) : Prop :=
  ∃ significand exponent : Int, |significand| ≤ 2 ^ format.precision ∧
    format.least ≤ exponent ∧ x = significand * 2 ^ exponent

/-- The exponent of the last digit kept of a number. -/
def lastPlace (x : Rat) : Int := max (Int.log 2 |x| + 1 - format.precision) format.least

/-- The number of the format nearest to `x`. -/
def round (x : Rat) : Rat := nearest (x / 2 ^ format.lastPlace x) * 2 ^ format.lastPlace x

/-! ### How far rounding goes -/

section Distance

variable (x : Rat)

/-- A distance from `x` in units of its last place. -/
theorem abs_units_sub (n : Rat) : |n * 2 ^ format.lastPlace x - x| =
    |n - x / 2 ^ format.lastPlace x| * 2 ^ format.lastPlace x := by
  have unit : (0 : Rat) < 2 ^ format.lastPlace x := by positivity
  have back : x / 2 ^ format.lastPlace x * 2 ^ format.lastPlace x = x :=
    div_mul_cancel₀ x unit.ne'
  rw [← abs_of_pos unit, ← abs_mul, abs_of_pos unit, sub_mul, back]

/-- No number with the same last place lies nearer. -/
theorem round_closest (n : Int) :
    |format.round x - x| ≤ |(n : Rat) * 2 ^ format.lastPlace x - x| := by
  have unit : (0 : Rat) ≤ 2 ^ format.lastPlace x := by positivity
  unfold round
  rw [abs_units_sub, abs_units_sub]
  exact mul_le_mul_of_nonneg_right (nearest_closest _ n) unit

theorem abs_round_sub_le_abs : |format.round x - x| ≤ |x| := by
  have zero := round_closest format x 0
  simpa using zero

/-- Rounding at most doubles. -/
theorem abs_round_le : |format.round x| ≤ 2 * |x| := by
  have close := abs_round_sub_le_abs format x
  have size := abs_sub_abs_le_abs_sub (format.round x) x
  linarith

end Distance

variable {format} {x : Rat}

/-- Rounding keeps the sign. -/
theorem round_nonneg (nonneg : 0 ≤ x) : 0 ≤ format.round x := by
  have close := abs_le.mp (abs_round_sub_le_abs format x)
  rw [abs_of_nonneg nonneg] at close
  linarith [close.1]

/-- What is not far below zero is not rounded far below zero. -/
theorem neg_le_round {bound : Rat} (nonneg : 0 ≤ bound) (above : -bound ≤ x) :
    -(2 * bound) ≤ format.round x := by
  rcases le_total 0 x with positive | negative
  · have kept : 0 ≤ format.round x := round_nonneg positive
    linarith
  · have doubled := (abs_le.mp (abs_round_le format x)).1
    rw [abs_of_nonpos negative] at doubled
    linarith

/-- Rounding moves a number by half a unit in the last place of a bound. -/
theorem abs_round_sub_le {k : Int} (bound : |x| ≤ 2 ^ k)
    (normal : format.least + format.precision ≤ k + 1) :
    |format.round x - x| ≤ 2 ^ (k - format.precision) := by
  by_cases zero : x = 0
  · have none := abs_round_sub_le_abs format x
    rw [zero, abs_zero] at none
    rw [zero]
    exact none.trans (by positivity)
  · have log : Int.log 2 |x| ≤ k := by
      have mono := Int.log_mono_right (b := 2) (abs_pos.mpr zero) bound
      rwa [show (2 : Rat) = ((2 : Nat) : Rat) from rfl, Int.log_zpow one_lt_two] at mono
    have place : format.lastPlace x ≤ k - format.precision + 1 := by
      unfold lastPlace
      omega
    have two : (2 : Rat) ≠ 0 := two_ne_zero
    unfold round
    rw [abs_units_sub]
    calc _ ≤ 1 / 2 * 2 ^ format.lastPlace x :=
          mul_le_mul_of_nonneg_right (abs_nearest_sub_le _) (by positivity)
      _ ≤ 1 / 2 * (2 : Rat) ^ (k - format.precision + 1) :=
          mul_le_mul_of_nonneg_left (zpow_le_zpow_right₀ one_le_two place) (by norm_num)
      _ = 2 ^ (k - format.precision) := by
          rw [zpow_add_one₀ two]
          ring

/-! ### The numbers of a format -/

/-- A multiple of a unit not below the last place is left as it is. -/
theorem round_of_multiple {n exponent : Int} (value : x = n * 2 ^ exponent)
    (place : format.lastPlace x ≤ exponent) : format.round x = x := by
  have two : (2 : Rat) ≠ 0 := two_ne_zero
  obtain ⟨steps, rfl⟩ : ∃ steps : Nat, exponent = format.lastPlace x + steps :=
    ⟨(exponent - format.lastPlace x).toNat, by omega⟩
  have multiple : x = ((n * 2 ^ steps : Int) : Rat) * 2 ^ format.lastPlace x := by
    rw [zpow_add₀ two, zpow_natCast] at value
    push_cast
    linarith
  have closest := round_closest format x (n * 2 ^ steps)
  rw [← multiple, sub_self, abs_zero] at closest
  exact sub_eq_zero.mp (abs_nonpos_iff.mp closest)

/-- The last place of a number whose significand is not too long. -/
theorem lastPlace_le {significand exponent : Int} (short : |significand| < 2 ^ format.precision)
    (least : format.least ≤ exponent) (some : significand ≠ 0) :
    format.lastPlace (significand * 2 ^ exponent) ≤ exponent := by
  have size : |(significand : Rat) * 2 ^ exponent| < 2 ^ (exponent + format.precision) := by
    have unit : (0 : Rat) < 2 ^ exponent := by positivity
    have digits : |(significand : Rat)| < 2 ^ format.precision := by exact_mod_cast short
    rw [abs_mul, abs_of_pos unit, zpow_add₀ two_ne_zero, zpow_natCast, mul_comm]
    exact mul_lt_mul_of_pos_left digits unit
  have positive : 0 < |(significand : Rat) * 2 ^ exponent| :=
    abs_pos.mpr (mul_ne_zero (Int.cast_ne_zero.mpr some) (by positivity))
  have log := (Int.lt_zpow_iff_log_lt one_lt_two positive).mp (by exact_mod_cast size)
  unfold lastPlace
  omega

/-- A power of two with one digit too many is twice one that is short. -/
theorem Fits.short (fits : format.Fits x) (some : x ≠ 0) :
    ∃ significand exponent : Int, |significand| < 2 ^ format.precision ∧
      format.least ≤ exponent ∧ significand ≠ 0 ∧ x = significand * 2 ^ exponent := by
  obtain ⟨significand, exponent, digits, least, rfl⟩ := fits
  have nonzero : significand ≠ 0 := by
    rintro rfl
    exact some (by rw [Int.cast_zero, zero_mul])
  rcases digits.lt_or_eq with short | full
  · exact ⟨significand, exponent, short, least, nonzero, rfl⟩
  · obtain ⟨count, precision⟩ : ∃ count : Nat, format.precision = count + 1 :=
      ⟨format.precision - 1, (Nat.sub_add_cancel format.positive).symm⟩
    rw [precision, pow_succ] at full
    obtain ⟨half, rfl⟩ : ∃ half : Int, significand = half * 2 := by
      rcases abs_cases significand with ⟨same, -⟩ | ⟨same, -⟩
      · exact ⟨2 ^ count, by linarith⟩
      · exact ⟨-2 ^ count, by linarith⟩
    rw [abs_mul, abs_two] at full
    have size : |half| = 2 ^ count := by linarith
    refine ⟨half, exponent + 1, ?_, by omega, left_ne_zero_of_mul nonzero, ?_⟩
    · rw [size, precision]
      exact pow_lt_pow_right₀ one_lt_two (Nat.lt_succ_self count)
    · rw [zpow_add_one₀ two_ne_zero]
      push_cast
      ring

/-- A number of the format is not rounded. -/
theorem round_of_fits (fits : format.Fits x) : format.round x = x := by
  by_cases zero : x = 0
  · have none := abs_round_sub_le_abs format x
    rw [zero, abs_zero, sub_zero] at none
    rw [zero]
    exact abs_nonpos_iff.mp none
  · obtain ⟨significand, exponent, short, least, some, rfl⟩ := fits.short zero
    exact round_of_multiple rfl (lastPlace_le short least some)

/-- What was rounded is a number of the format. -/
theorem fits_round : format.Fits (format.round x) := by
  refine ⟨nearest (x / 2 ^ format.lastPlace x), format.lastPlace x, ?_, le_max_right _ _, rfl⟩
  have unit : (0 : Rat) < 2 ^ format.lastPlace x := by positivity
  have below : |x| ≤ 2 ^ format.precision * 2 ^ format.lastPlace x := by
    calc |x| ≤ ((2 : Nat) : Rat) ^ (Int.log 2 |x| + 1) :=
          (Int.lt_zpow_succ_log_self one_lt_two |x|).le
      _ ≤ 2 ^ (format.precision + format.lastPlace x) :=
          zpow_le_zpow_right₀ one_le_two (by unfold lastPlace; omega)
      _ = 2 ^ format.precision * 2 ^ format.lastPlace x := by
          rw [zpow_add₀ two_ne_zero, zpow_natCast]
  have quotient : |x / 2 ^ format.lastPlace x| ≤ 2 ^ format.precision := by
    rw [abs_div, abs_of_pos unit]
    exact (div_le_iff₀ unit).mpr below
  have half := abs_nearest_sub_le (x / 2 ^ format.lastPlace x)
  have size := abs_sub_abs_le_abs_sub (nearest (x / 2 ^ format.lastPlace x) : Rat)
    (x / 2 ^ format.lastPlace x)
  have integers : ((|nearest (x / 2 ^ format.lastPlace x)| : Int) : Rat) <
      ((2 ^ format.precision + 1 : Int) : Rat) := by
    push_cast
    linarith
  exact Int.lt_add_one_iff.mp (Int.cast_lt.mp integers)

theorem fits_intCast {n : Int} (size : |n| ≤ 2 ^ format.precision) (least : format.least ≤ 0) :
    format.Fits n :=
  ⟨n, 0, size, least, by rw [zpow_zero, mul_one]⟩

/-- Twice a number is one. -/
theorem Fits.double (fits : format.Fits x) : format.Fits (x * 2) := by
  obtain ⟨significand, exponent, digits, least, rfl⟩ := fits
  refine ⟨significand, exponent + 1, digits, by omega, ?_⟩
  rw [zpow_add_one₀ two_ne_zero, mul_assoc]

theorem Fits.neg (fits : format.Fits x) : format.Fits (-x) := by
  obtain ⟨significand, exponent, digits, least, rfl⟩ := fits
  refine ⟨-significand, exponent, by rwa [abs_neg], least, ?_⟩
  push_cast
  ring

/-! ### Arithmetic -/

/-- A number of the format. -/
@[ext] structure Number (format : FloatFormat) where
  value : Rat
  fits : format.Fits value
deriving DecidableEq, Repr

namespace Number

/-- The number nearest to `x`. -/
def ofRat (x : Rat) : format.Number := ⟨format.round x, fits_round⟩

instance : Add format.Number := ⟨fun x y => ofRat (x.value + y.value)⟩
instance : Sub format.Number := ⟨fun x y => ofRat (x.value - y.value)⟩
instance : Mul format.Number := ⟨fun x y => ofRat (x.value * y.value)⟩
instance : Neg format.Number := ⟨fun x => ⟨-x.value, x.fits.neg⟩⟩
instance (n : Nat) : OfNat format.Number n := ⟨ofRat n⟩
instance : IntCast format.Number := ⟨fun n => ofRat n⟩
instance : LT format.Number := ⟨fun x y => x.value < y.value⟩
instance (x y : format.Number) : Decidable (x < y) := inferInstanceAs (Decidable (_ < _))

variable (x y : format.Number)

theorem value_sub : (x - y).value = format.round (x.value - y.value) := rfl
theorem value_mul : (x * y).value = format.round (x.value * y.value) := rfl

theorem value_intCast {n : Int} (size : |n| ≤ 2 ^ format.precision) (least : format.least ≤ 0) :
    (n : format.Number).value = n :=
  round_of_fits (fits_intCast size least)

end Number

/-! ### Double precision -/

/-- The format of 64 bits. -/
def binary64 : FloatFormat where
  precision := 53
  least := -1074
  positive := by decide

end FloatFormat
