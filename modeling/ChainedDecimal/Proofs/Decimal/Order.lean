import ChainedDecimal.Proofs.Decimal.Number
import Mathlib.Data.Int.Log
import Mathlib.Data.Rat.Floor
import Mathlib.Order.Monotone.Basic

/-!
# Comparing decimals compares their numbers

Two decimals are compared by their signs first, then by the places of their leading digits, and only
then by coefficients at a common exponent. The outcome is always that of comparing the two numbers:
a number lies between the power of ten of its leading digit and the next one, so a leading digit
that stands higher makes a larger number, whatever the other digits are.

That the outcome is right is `Ordering.Compares`, which is the order of the numbers where the
outcome says "less" or "greater", and their equality where it says "equal".
-/

namespace ChainedDecimal

theorem compares_compare (m n : ℕ) : (compare m n).Compares m n := by
  rw [← cmp_eq_compare]
  exact cmp_compares m n

namespace Decimal

variable {a b d : Decimal}

/-! ## The place of the leading digit -/

theorem pow_adjusted_le (h : d.coeff ≠ 0) : (10 : ℚ) ^ d.adjusted ≤ |d.toRat| := by
  have hpos := digitCount_pos d.coeff
  have hplace : d.adjusted = ((digitCount d.coeff - 1 : ℕ) : ℤ) + d.exp := by
    rw [adjusted, digits]
    omega
  have hdigits : ((10 : ℚ) ^ ((digitCount d.coeff - 1 : ℕ) : ℤ)) ≤ d.coeff := by
    rw [← natPow_cast]
    exact_mod_cast pow_digitCount_le h
  rw [abs_toRat, hplace, zpow_add₀ (by norm_num)]
  exact mul_le_mul_of_nonneg_right hdigits (pow_exp_pos _).le

theorem abs_toRat_lt_pow (d : Decimal) : |d.toRat| < (10 : ℚ) ^ (d.adjusted + 1) := by
  have hplace : d.adjusted + 1 = ((digitCount d.coeff : ℕ) : ℤ) + d.exp := by
    rw [adjusted, digits]
    omega
  have hdigits : (d.coeff : ℚ) < (10 : ℚ) ^ ((digitCount d.coeff : ℕ) : ℤ) := by
    rw [← natPow_cast]
    exact_mod_cast lt_pow_digitCount d.coeff
  rw [abs_toRat, hplace, zpow_add₀ (by norm_num)]
  exact mul_lt_mul_of_pos_right hdigits (pow_exp_pos _)

/-- The place of the leading digit is the integral part of the logarithm. -/
theorem log_abs_toRat (h : d.coeff ≠ 0) : Int.log 10 |d.toRat| = d.adjusted := by
  have hle := pow_adjusted_le h
  have hlt := abs_toRat_lt_pow d
  have hpos : 0 < |d.toRat| := (pow_exp_pos _).trans_le hle
  have hbase : ((10 : ℕ) : ℚ) = 10 := Nat.cast_ofNat
  rw [← hbase] at hle hlt
  have hlog := (Int.zpow_le_iff_le_log (by decide) hpos).1 hle
  have hlog' := (Int.lt_zpow_iff_log_lt (by decide) hpos).1 hlt
  omega

/-- The number whose leading digit stands higher is the larger one. -/
theorem abs_lt_of_adjusted_lt (hb : b.coeff ≠ 0) (h : a.adjusted < b.adjusted) :
    |a.toRat| < |b.toRat| := by
  calc |a.toRat| < (10 : ℚ) ^ (a.adjusted + 1) := abs_toRat_lt_pow a
    _ ≤ (10 : ℚ) ^ b.adjusted := zpow_le_zpow_right₀ (by norm_num) (by omega)
    _ ≤ |b.toRat| := pow_adjusted_le hb

/-! ## Comparing -/

theorem strictMono_mul_pow (e : ℤ) : StrictMono fun n : ℕ ↦ (n : ℚ) * (10 : ℚ) ^ e := by
  intro m n hmn
  exact mul_lt_mul_of_pos_right (by exact_mod_cast hmn) (pow_exp_pos e)

theorem abs_toRat_eq_coeffAt {e : ℤ} (h : e ≤ d.exp) : |d.toRat| = d.coeffAt e * (10 : ℚ) ^ e := by
  have hpow := pow_exp_pos e
  rw [toRat_eq_signedAt h, abs_mul, abs_of_pos hpow, signedAt]
  split <;> simp

/-- Coefficients at a common exponent are compared as the numbers are. -/
theorem compares_coeffAt {e : ℤ} (ha : e ≤ a.exp) (hb : e ≤ b.exp) :
    (compare (a.coeffAt e) (b.coeffAt e)).Compares |a.toRat| |b.toRat| := by
  rw [abs_toRat_eq_coeffAt ha, abs_toRat_eq_coeffAt hb]
  exact (strictMono_mul_pow e).compares.2 (compares_compare _ _)

/-- A zero has its coefficient at the exponent of whatever it is compared with. -/
theorem compares_of_isZero (h : a.isZero = true ∨ b.isZero = true) :
    (compare a.coeff b.coeff).Compares |a.toRat| |b.toRat| := by
  have hany : ∀ (d : Decimal) (e : ℤ), d.isZero = true → |d.toRat| = d.coeff * (10 : ℚ) ^ e := by
    intro d e hd
    have hcoeff : d.coeff = 0 := by simpa [isZero] using hd
    rw [abs_toRat, hcoeff, Nat.cast_zero, zero_mul, zero_mul]
  rcases h with ha | hb
  · rw [hany a b.exp ha, abs_toRat b]
    exact (strictMono_mul_pow b.exp).compares.2 (compares_compare _ _)
  · rw [abs_toRat a, hany b a.exp hb]
    exact (strictMono_mul_pow a.exp).compares.2 (compares_compare _ _)

theorem compares_compareMagnitude (a b : Decimal) :
    (compareMagnitude a b).Compares |a.toRat| |b.toRat| := by
  have hne : ∀ d : Decimal, d.isZero = false → d.coeff ≠ 0 := fun d hd ↦ by simpa [isZero] using hd
  unfold compareMagnitude
  split
  · rename_i hzero
    exact compares_of_isZero (by simpa using hzero)
  · rename_i hzero
    obtain ⟨ha, hb⟩ : a.isZero = false ∧ b.isZero = false := by simpa using hzero
    cases hplace : compare a.adjusted b.adjusted with
    | lt => exact abs_lt_of_adjusted_lt (hne b hb) (compare_lt_iff_lt.1 hplace)
    | eq => exact compares_coeffAt (Int.min_le_left _ _) (Int.min_le_right _ _)
    | gt => exact abs_lt_of_adjusted_lt (hne a ha) (compare_gt_iff_gt.1 hplace)

/-- **Comparing decimals is comparing their numbers.** -/
theorem compares_compareValue (a b : Decimal) : (compareValue a b).Compares a.toRat b.toRat := by
  have hneg : ∀ d : Decimal, d.isNegative = true → d.toRat < 0 := fun d ↦ isNegative_iff.1
  have hnonneg : ∀ d : Decimal, d.isNegative = false → 0 ≤ d.toRat := fun d hd ↦ by
    rw [← not_lt, ← isNegative_iff, hd]
    decide
  unfold compareValue
  cases ha : a.isNegative <;> cases hb : b.isNegative
  · have h := compares_compareMagnitude a b
    rwa [abs_of_nonneg (hnonneg a ha), abs_of_nonneg (hnonneg b hb)] at h
  · exact (hneg b hb).trans_le (hnonneg a ha)
  · exact (hneg a ha).trans_le (hnonneg b hb)
  · -- Below zero the larger magnitude is the smaller number.
    have h := compares_compareMagnitude b a
    rw [abs_of_neg (hneg a ha), abs_of_neg (hneg b hb)] at h
    cases hcmp : compareMagnitude b a <;> rw [hcmp] at h
    · exact neg_lt_neg_iff.1 h
    · exact (neg_injective h).symm
    · exact neg_lt_neg_iff.1 h

/-- Decimals that compare as equal represent the same number. -/
theorem sameNumber_of_compareValue (h : compareValue a b = .eq) : SameNumber a b :=
  (compares_compareValue a b).eq_eq.1 h

end Decimal

end ChainedDecimal
