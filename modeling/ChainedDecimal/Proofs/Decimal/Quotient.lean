import ChainedDecimal.Proofs.Decimal.Rounding
import Mathlib.Data.Nat.Cast.Field

/-!
# The steps of a division

A division goes through the integer ratios of its operands: these are multiplied crosswise, a power
of ten for the scale is put on one side, the absolute values are divided with a remainder, and the
half and the sign are seen to afterwards. Each step is told here by the number that it is about, and
the outcome is `exactQuotient`, where one coefficient is shifted against the other and rounded at
once.
-/

namespace ChainedDecimal

/-- To count a remainder of a half or more as one more is to round to the nearest integer. -/
theorem nearest_eq_ite_remainder (n : ℕ) {d : ℕ} (hd : 0 < d) :
    nearest n d = if d ≤ 2 * (n % d) then n / d + 1 else n / d := by
  have hlt := Nat.mod_lt n hd
  have hsum : 2 * n + d = 2 * (n % d) + d + 2 * d * (n / d) := by
    conv_lhs => rw [← Nat.mod_add_div n d]
    ring
  rw [nearest, hsum, Nat.add_mul_div_left _ _ (by omega)]
  split
  · have hone : (2 * (n % d) + d) / (2 * d) = 1 := Nat.div_eq_of_lt_le (by omega) (by omega)
    rw [hone, Nat.add_comm]
  · rw [Nat.div_eq_of_lt (by omega), Nat.zero_add]

namespace Decimal

variable {a b d : Decimal} {scale : ℤ}

/-! ## Signs -/

theorem negative_iff (h : d.isZero = false) : d.negative = true ↔ d.toRat < 0 := by
  rw [← isNegative_iff, isNegative, h, Bool.not_false, Bool.and_true]

/-- A quotient is below zero exactly if the signs differ. -/
theorem div_neg_iff_negative (ha : a.isZero = false) (hb : b.isZero = false) :
    a.toRat / b.toRat < 0 ↔ (a.negative != b.negative) = true := by
  have hne : ∀ {d : Decimal}, d.isZero = false → d.toRat ≠ 0 := fun {d} hd hzero ↦ by
    rw [toRat_eq_zero_iff, hd] at hzero
    cases hzero
  have hpos : ∀ {d : Decimal}, d.isZero = false → (0 < d.toRat ↔ ¬d.negative = true) :=
    fun {d} hd ↦ by rw [negative_iff hd, not_lt, lt_iff_le_and_ne, and_iff_left (hne hd).symm]
  rw [div_neg_iff, hpos ha, hpos hb, ← negative_iff ha, ← negative_iff hb]
  cases a.negative <;> cases b.negative <;> decide

/-! ## Quotients -/

/-- The coefficient of a quotient, from the quotient of the numbers. -/
theorem coeff_exactQuotient (a : Decimal) (hb : b.isZero = false) (scale : ℤ) :
    (exactQuotient a b scale).coeff = ⌊|a.toRat / b.toRat| * (10 : ℚ) ^ scale + 1 / 2⌋₊ := by
  rw [abs_div]
  exact quotientAt_eq_roundHalf a hb scale

/-- The sign of a quotient, from the quotient of the numbers. It is that of the numbers unless
nothing is left of them. -/
theorem negative_exactQuotient_iff (a : Decimal) (hb : b.isZero = false) (scale : ℤ) :
    (exactQuotient a b scale).negative = true ↔
      a.toRat / b.toRat < 0 ∧ (exactQuotient a b scale).coeff ≠ 0 := by
  cases ha : a.isZero with
  | true =>
    have hcoeff : a.coeff = 0 := by simpa [isZero] using ha
    simp [exactQuotient, quotientAt, hcoeff]
  | false =>
    rw [div_neg_iff_negative ha hb]
    simp [exactQuotient]

/-! ## Ratios -/

theorem integerRatio_pos (d : Decimal) : 0 < d.integerRatio.2 := by
  unfold integerRatio
  split
  · exact Nat.one_pos
  · split
    · exact Nat.one_pos
    · have hpower : 0 < Nat.pow 10 (-d.exp).toNat := Nat.pow_pos (by decide)
      exact Nat.div_pos (Nat.gcd_le_right _ hpower) (Nat.gcd_pos_of_pos_right _ hpower)

/-- The ratio is that of the number. -/
theorem integerRatio_eq (d : Decimal) :
    (d.integerRatio.1 : ℚ) / d.integerRatio.2 = d.toRat := by
  have hsigned : (d.signedCoeff : ℚ) * (10 : ℚ) ^ d.exp = d.toRat := by
    unfold signedCoeff toRat
    cases d.negative <;> simp
  unfold integerRatio
  split
  · rename_i hzero
    rw [toRat_eq_zero_iff.2 hzero, Int.cast_zero, zero_div]
  · split
    · rename_i hexp
      have hplaces : ((d.exp.toNat : ℕ) : ℤ) = d.exp := Int.toNat_of_nonneg hexp
      rw [Nat.cast_one, div_one, Int.cast_mul, Int.cast_natCast, natPow_cast, hplaces, hsigned]
    · rename_i hexp
      have hplaces : (((-d.exp).toNat : ℕ) : ℤ) = -d.exp := Int.toNat_of_nonneg (by omega)
      have hpower : 0 < Nat.pow 10 (-d.exp).toNat := Nat.pow_pos (by decide)
      have hcommon : ((Nat.gcd d.coeff (Nat.pow 10 (-d.exp).toNat) : ℕ) : ℚ) ≠ 0 := by
        exact_mod_cast (Nat.gcd_pos_of_pos_right _ hpower).ne'
      -- Both sides of the fraction are divisible by what is taken out of them.
      have hnumerator : ((Nat.gcd d.coeff (Nat.pow 10 (-d.exp).toNat) : ℕ) : ℤ) ∣
          d.signedCoeff := by
        have hcoeff := Int.natCast_dvd_natCast.2
          (Nat.gcd_dvd_left d.coeff (Nat.pow 10 (-d.exp).toNat))
        unfold signedCoeff
        split
        · exact Int.dvd_neg.2 hcoeff
        · exact hcoeff
      rw [Int.cast_div hnumerator (by exact_mod_cast hcommon),
        Nat.cast_div (Nat.gcd_dvd_right _ _) hcommon, Int.cast_natCast,
        div_div_div_cancel_right₀ hcommon, natPow_cast, hplaces, zpow_neg, div_inv_eq_mul, hsigned]

theorem scaledRatio_eq (a b : Decimal) (scale : ℤ) :
    ((scaledRatio a b scale).1 : ℚ) / (scaledRatio a b scale).2 =
      a.toRat / b.toRat * (10 : ℚ) ^ scale := by
  have hcross : ((a.integerRatio.1 * b.integerRatio.2 : ℤ) : ℚ) /
      ((a.integerRatio.2 * b.integerRatio.1 : ℤ) : ℚ) = a.toRat / b.toRat := by
    rw [← integerRatio_eq a, ← integerRatio_eq b, div_div_div_eq]
    push_cast
    rfl
  unfold scaledRatio
  split
  · rename_i hscale
    have hplaces : ((scale.toNat : ℕ) : ℤ) = scale := Int.toNat_of_nonneg hscale
    rw [← hcross, Int.cast_mul, Int.cast_natCast, natPow_cast, hplaces, mul_div_right_comm]
  · rename_i hscale
    have hplaces : (((-scale).toNat : ℕ) : ℤ) = -scale := Int.toNat_of_nonneg (by omega)
    rw [← hcross, Int.cast_mul (a.integerRatio.2 * b.integerRatio.1 : ℤ), Int.cast_natCast,
      natPow_cast, hplaces, ← div_div, zpow_neg, div_inv_eq_mul]

theorem scaledRatio_ne_zero (hb : b.isZero = false) (a : Decimal) (scale : ℤ) :
    (scaledRatio a b scale).2 ≠ 0 := by
  have hdivisor : b.integerRatio.1 ≠ 0 := by
    intro hzero
    have hnumber := integerRatio_eq b
    rw [hzero, Int.cast_zero, zero_div, eq_comm, toRat_eq_zero_iff, hb] at hnumber
    cases hnumber
  have hpower : ∀ k : ℕ, ((Nat.pow 10 k : ℕ) : ℤ) ≠ 0 := fun k ↦ by
    exact_mod_cast (Nat.pow_pos (by decide)).ne'
  have hdenominator : ((a.integerRatio.2 : ℕ) : ℤ) ≠ 0 := by
    exact_mod_cast (integerRatio_pos a).ne'
  unfold scaledRatio
  split
  · exact mul_ne_zero hdenominator hdivisor
  · exact mul_ne_zero (mul_ne_zero hdenominator hdivisor) (hpower _)

/-! ## Rounding a ratio -/

/-- The sign of a ratio is that of neither side alone. -/
theorem intDiv_neg_iff (n : ℤ) {m : ℤ} (hm : m ≠ 0) :
    (n : ℚ) / m < 0 ↔ n ≠ 0 ∧ (decide (n < 0) != decide (m < 0)) = true := by
  rw [div_neg_iff, Int.cast_pos, Int.cast_lt_zero, Int.cast_lt_zero, Int.cast_pos, bne_iff_ne,
    ne_eq, ne_eq, decide_eq_decide]
  omega

theorem natAbs_roundedRatio (n : ℤ) {m : ℤ} (hm : m ≠ 0) :
    (roundedRatio n m).natAbs = roundHalf |(n : ℚ) / m| := by
  have hpos : 0 < m.natAbs := Int.natAbs_pos.2 hm
  have habs : |(n : ℚ) / m| = (n.natAbs : ℚ) / m.natAbs := by
    rw [abs_div, Nat.cast_natAbs, Nat.cast_natAbs, Int.cast_abs, Int.cast_abs]
  rw [habs, ← nearest_eq_roundHalf _ hpos, nearest_eq_ite_remainder _ hpos]
  simp only [roundedRatio]
  split
  · rw [Int.natAbs_neg, Int.natAbs_natCast]
  · rw [Int.natAbs_natCast]

theorem roundedRatio_neg_iff (n : ℤ) {m : ℤ} (hm : m ≠ 0) :
    roundedRatio n m < 0 ↔ (n : ℚ) / m < 0 ∧ roundedRatio n m ≠ 0 := by
  -- A ratio of zero is rounded to zero, whatever sign is put to it.
  have hzero : n = 0 → roundedRatio n m = 0 := by
    rintro rfl
    rw [← Int.natAbs_eq_zero, natAbs_roundedRatio 0 hm, Int.cast_zero, zero_div, abs_zero,
      roundHalf_zero]
  rw [intDiv_neg_iff n hm]
  cases hdiffer : decide (n < 0) != decide (m < 0) with
  | true =>
    have hnonpos : roundedRatio n m ≤ 0 := by
      simp only [roundedRatio, hdiffer, if_true]
      omega
    constructor
    · intro hneg
      exact ⟨⟨mt hzero hneg.ne, rfl⟩, hneg.ne⟩
    · rintro ⟨-, hne⟩
      exact lt_of_le_of_ne hnonpos hne
  | false =>
    have hnonneg : 0 ≤ roundedRatio n m := by
      simp only [roundedRatio, hdiffer, Bool.false_eq_true, if_false]
      omega
    simp [hnonneg]

/-- The steps of a division lead to the quotient of the coefficients. -/
theorem ofInt_roundedRatio (a : Decimal) (hb : b.isZero = false) (scale : ℤ) :
    ofInt (roundedRatio (scaledRatio a b scale).1 (scaledRatio a b scale).2) =
      { exactQuotient a b scale with exp := 0 } := by
  have hne := scaledRatio_ne_zero hb a scale
  have hcoeff : (roundedRatio (scaledRatio a b scale).1 (scaledRatio a b scale).2).natAbs =
      (exactQuotient a b scale).coeff := by
    rw [natAbs_roundedRatio _ hne, scaledRatio_eq, abs_mul, abs_div, abs_of_pos (pow_exp_pos scale)]
    exact (quotientAt_eq_roundHalf a hb scale).symm
  have hunits : a.toRat / b.toRat * (10 : ℚ) ^ scale < 0 ↔ a.toRat / b.toRat < 0 := by
    have hpow := pow_exp_pos scale
    exact ⟨fun h ↦ neg_of_mul_neg_left h hpow.le, fun h ↦ mul_neg_of_neg_of_pos h hpow⟩
  have hsign : decide (roundedRatio (scaledRatio a b scale).1 (scaledRatio a b scale).2 < 0) =
      (exactQuotient a b scale).negative := by
    rw [Bool.eq_iff_iff, decide_eq_true_eq, roundedRatio_neg_iff _ hne, scaledRatio_eq, hunits,
      negative_exactQuotient_iff a hb, ← hcoeff, ne_eq, ne_eq, Int.natAbs_eq_zero]
  rw [ofInt, hcoeff, hsign]

/-- A division by anything but a zero gives the quotient, if the limits allow it. -/
theorem divide_of_not_isZero (hb : b.isZero = false) :
    a.divide b scale = placed (exactQuotient a b scale).negative (exactQuotient a b scale).coeff
      (exactQuotient a b scale).exp := by
  rw [divide, if_neg (by simp [hb])]
  simp only [ofInt_roundedRatio a hb scale]
  rfl

end Decimal

end ChainedDecimal
