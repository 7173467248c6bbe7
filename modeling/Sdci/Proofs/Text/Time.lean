import Mathlib.Algebra.Order.Field.Basic
import Mathlib.Data.Rat.Lemmas
import Mathlib.Tactic.NormNum
import Mathlib.Tactic.Positivity
import Mathlib.Tactic.Linarith
import Sdci.Text.Decimal

/-!
# Times in single precision

A fraction is a time in seconds if its value, rounded to single precision, is neither negative nor
too great to be counted (`Decimal.isTime_finite_iff`).
-/

namespace Sdci.Text.Decimal

/-- The value of a fraction. -/
def value (isNegative : Bool) (digits : Nat) (exponent : Int) : ℚ :=
  (if isNegative then -1 else 1) * (digits * 10 ^ exponent)

/-- The values that single precision rounds to a time: half the least step below zero is still zero,
and half a step below `2 ^ 64` is that already. -/
def IsInRange (value : ℚ) : Prop :=
  -(2 ^ 150)⁻¹ ≤ value ∧ value < 2 ^ 64 - 2 ^ 39

variable {digits places : Nat} {exponent : Int}

theorem ten_zpow (exponent : Int) :
    (10 : ℚ) ^ exponent = 10 ^ exponent.toNat / 10 ^ (-exponent).toNat := by
  obtain h | h := Int.le_total 0 exponent
  · rw [show (-exponent).toNat = 0 by omega, pow_zero, div_one, ← zpow_natCast,
      Int.toNat_of_nonneg h]
  · rw [show exponent.toNat = 0 by omega, pow_zero, one_div, ← zpow_natCast,
      Int.toNat_of_nonneg (by omega), zpow_neg, inv_inv]

theorem isInRange_neg_iff {number whole : Nat} (hwhole : 0 < whole) :
    IsInRange (-1 * ((number : ℚ) / whole)) ↔ number * 2 ^ 150 ≤ whole := by
  have hpos : (0 : ℚ) < whole := by exact_mod_cast hwhole
  have hnonneg : (0 : ℚ) ≤ number / whole := by positivity
  have hhigh : -1 * ((number : ℚ) / whole) < 2 ^ 64 - 2 ^ 39 := by
    norm_num
    linarith
  rw [IsInRange, and_iff_left hhigh, neg_one_mul, neg_le_neg_iff, div_le_iff₀ hpos,
    ← div_eq_inv_mul, le_div_iff₀ (by positivity)]
  exact_mod_cast Iff.rfl

theorem isInRange_iff {number whole : Nat} (hwhole : 0 < whole) :
    IsInRange (1 * ((number : ℚ) / whole)) ↔ number < (2 ^ 64 - 2 ^ 39) * whole := by
  have hpos : (0 : ℚ) < whole := by exact_mod_cast hwhole
  have hlow : -(2 ^ 150)⁻¹ ≤ 1 * ((number : ℚ) / whole) :=
    (by norm_num : (-(2 ^ 150)⁻¹ : ℚ) ≤ 0).trans (by positivity)
  rw [IsInRange, and_iff_right hlow, one_mul, div_lt_iff₀ hpos,
    show ((2 : ℚ) ^ 64 - 2 ^ 39) = ((2 ^ 64 - 2 ^ 39 : Nat) : ℚ) by norm_num]
  exact_mod_cast Iff.rfl

theorem two_pow_lt_of_maxExponent_lt (hdigits : digits ≠ 0) (h : maxExponent < exponent) :
    2 ^ 64 < digits * 10 ^ exponent.toNat := by
  have hpow : 10 ^ 31 ≤ 10 ^ exponent.toNat :=
    Nat.pow_le_pow_right (by decide) (by unfold maxExponent at h; omega)
  calc 2 ^ 64 < 10 ^ 31 := by decide
    _ ≤ 10 ^ exponent.toNat := hpow
    _ ≤ digits * 10 ^ exponent.toNat := Nat.le_mul_of_pos_left _ (Nat.pos_of_ne_zero hdigits)

theorem mul_two_pow_lt_of_log2 {count : Nat} (h : digits.log2 + 1 + count ≤ places) :
    digits * 2 ^ count < 10 ^ places :=
  calc digits * 2 ^ count < 2 ^ (digits.log2 + 1) * 2 ^ count :=
        Nat.mul_lt_mul_of_pos_right Nat.lt_log2_self (Nat.two_pow_pos count)
    _ = 2 ^ (digits.log2 + 1 + count) := (Nat.pow_add ..).symm
    _ ≤ 2 ^ places := Nat.pow_le_pow_right (by decide) h
    _ ≤ 10 ^ places := Nat.pow_le_pow_left (by decide) _

theorem isInRange_value_iff (isNegative : Bool) (digits : Nat) (exponent : Int) :
    IsInRange (value isNegative digits exponent) ↔
      if isNegative then digits * 10 ^ exponent.toNat * 2 ^ 150 ≤ 10 ^ (-exponent).toNat
      else digits * 10 ^ exponent.toNat < (2 ^ 64 - 2 ^ 39) * 10 ^ (-exponent).toNat := by
  have hvalue : (digits : ℚ) * 10 ^ exponent =
      ((digits * 10 ^ exponent.toNat : Nat) : ℚ) / ((10 ^ (-exponent).toNat : Nat) : ℚ) := by
    rw [ten_zpow]
    push_cast
    exact mul_div_assoc' ..
  have hwhole : 0 < 10 ^ (-exponent).toNat := Nat.pow_pos (by decide)
  rw [value, hvalue]
  cases isNegative with
  | true => exact isInRange_neg_iff hwhole
  | false => exact isInRange_iff hwhole

/-- What is left out for the sake of great powers of ten changes nothing. -/
theorem isTime_finite_iff (isNegative : Bool) (digits : Nat) (exponent : Int) :
    (finite isNegative digits exponent).isTime = true ↔
      IsInRange (value isNegative digits exponent) := by
  rw [isInRange_value_iff, isTime]
  simp only [Nat.pow_eq]
  by_cases hdigits : digits = 0
  · simp [hdigits]
  rw [if_neg hdigits]
  by_cases hexponent : maxExponent < exponent
  · have hgreat := two_pow_lt_of_maxExponent_lt hdigits hexponent
    rw [if_pos hexponent, show (-exponent).toNat = 0 by unfold maxExponent at hexponent; omega]
    refine ⟨nofun, fun h => ?_⟩
    split at h <;> omega
  rw [if_neg hexponent]
  -- The logarithm is looked at only where the power of ten is negative.
  have hwhole : (-exponent).toNat ≠ 0 → digits * 10 ^ exponent.toNat = digits := by
    intro h
    rw [show exponent.toNat = 0 by omega, Nat.pow_zero, Nat.mul_one]
  cases isNegative with
  | true =>
    simp only [if_pos, Bool.or_eq_true, decide_eq_true_iff]
    refine or_iff_right_of_imp fun h => ?_
    rw [hwhole (by omega)]
    exact (mul_two_pow_lt_of_log2 h).le
  | false =>
    simp only [Bool.false_eq_true, if_false, Bool.or_eq_true, decide_eq_true_iff]
    refine or_iff_right_of_imp fun h => ?_
    rw [hwhole (by omega)]
    calc digits = digits * 2 ^ 0 := (Nat.mul_one _).symm
      _ < 10 ^ (-exponent).toNat := mul_two_pow_lt_of_log2 h
      _ ≤ (2 ^ 64 - 2 ^ 39) * 10 ^ (-exponent).toNat := Nat.le_mul_of_pos_left _ (by decide)

end Sdci.Text.Decimal
