import ChainedDecimal.Proofs.Decimal.Number
import Mathlib.Data.Rat.Floor

/-!
# Rounding depends on the number only

A quotient and a rounded value are found from coefficients and exponents, in ways that differ with
the representation: digits are dropped or zeros added, and a quotient shifts one coefficient or the
other. In each case the digits that come out are those of the number rounded to the place, so that
two representations of one number give the same digits.
-/

namespace ChainedDecimal

/-- A number that is not negative to the nearest natural number, a half going up. -/
def roundHalf (x : ℚ) : ℕ := ⌊x + 1 / 2⌋₊

theorem nearest_eq_roundHalf (n : ℕ) {d : ℕ} (hd : 0 < d) : nearest n d = roundHalf (n / d) := by
  have hd' : (d : ℚ) ≠ 0 := by exact_mod_cast hd.ne'
  have hsum : (n : ℚ) / d + 1 / 2 = ((2 * n + d : ℕ) : ℚ) / ((2 * d : ℕ) : ℚ) := by
    push_cast
    field_simp
  rw [roundHalf, hsum, Rat.natFloor_natCast_div_natCast, nearest]

theorem roundHalf_natCast (n : ℕ) : roundHalf n = n := by
  have h := nearest_eq_roundHalf n one_pos
  rw [Nat.cast_one, div_one] at h
  rw [← h, nearest]
  omega

@[simp] theorem roundHalf_zero : roundHalf 0 = 0 := by
  have h := roundHalf_natCast 0
  rwa [Nat.cast_zero] at h

/-- Where more digits are dropped than there are, nothing is left but what rounding leaves. -/
theorem dropDigits_eq_nearest (c k : ℕ) : dropDigits c k = nearest c (Nat.pow 10 k) := by
  unfold dropDigits
  split
  · rename_i hlt
    obtain ⟨m, rfl⟩ : ∃ m, k = m + 1 := ⟨k - 1, by omega⟩
    have hc : c < Nat.pow 10 m :=
      Nat.lt_of_lt_of_le (lt_pow_digitCount c) (Nat.pow_le_pow_right (by decide) (by omega))
    have hpow : Nat.pow 10 (m + 1) = Nat.pow 10 m * 10 := rfl
    rw [nearest, Nat.div_eq_of_lt (by omega)]
  · rfl

namespace Decimal

variable {a a' b b' d d' : Decimal}

theorem coeffRoundedAt_eq_roundHalf (d : Decimal) (e : ℤ) :
    d.coeffRoundedAt e = roundHalf (|d.toRat| * (10 : ℚ) ^ (-e)) := by
  have hnumber : |d.toRat| * (10 : ℚ) ^ (-e) = d.coeff * (10 : ℚ) ^ (d.exp - e) := by
    rw [abs_toRat, mul_assoc, ← zpow_add₀ (by norm_num)]
    rfl
  rw [hnumber, coeffRoundedAt]
  split
  · have hplaces : (((d.exp - e).toNat : ℕ) : ℤ) = d.exp - e := Int.toNat_of_nonneg (by omega)
    rw [← roundHalf_natCast (d.coeff * Nat.pow 10 (d.exp - e).toNat), Nat.cast_mul, natPow_cast,
      hplaces]
  · have hplaces : (((e - d.exp).toNat : ℕ) : ℤ) = e - d.exp := Int.toNat_of_nonneg (by omega)
    have hpos : 0 < Nat.pow 10 (e - d.exp).toNat := Nat.pow_pos (by decide)
    rw [dropDigits_eq_nearest, nearest_eq_roundHalf _ hpos, natPow_cast, hplaces, div_eq_mul_inv,
      ← zpow_neg, Int.neg_sub]

/-- Of a zero nothing is left wherever it is rounded. -/
theorem coeffRoundedAt_of_isZero (h : d.isZero = true) (e : ℤ) : d.coeffRoundedAt e = 0 := by
  rw [coeffRoundedAt_eq_roundHalf, toRat_eq_zero_iff.2 h, abs_zero, zero_mul, roundHalf_zero]

/-- The absolute quotient of two coefficients, where the dividend's is shifted by a number of
places, to the nearest integer. A dividend of zero may be shifted by any number of places, so it is
answered without the power of ten. -/
def quotientAt (dividend divisor : ℕ) (places : ℤ) : ℕ :=
  if dividend = 0 then 0
  else nearest (dividend * Nat.pow 10 places.toNat) (divisor * Nat.pow 10 (-places).toNat)

theorem quotientAt_eq (dividend : ℕ) {divisor : ℕ} (h : 0 < divisor) (places : ℤ) :
    quotientAt dividend divisor places =
      nearest (dividend * Nat.pow 10 places.toNat) (divisor * Nat.pow 10 (-places).toNat) := by
  unfold quotientAt nearest
  split
  · have hpos : 0 < divisor * Nat.pow 10 (-places).toNat :=
      Nat.mul_pos h (Nat.pow_pos (by decide))
    subst dividend
    rw [Nat.div_eq_of_lt (by omega)]
  · rfl

theorem quotientAt_eq_roundHalf (a : Decimal) (hb : b.isZero = false) (scale : ℤ) :
    quotientAt a.coeff b.coeff (a.exp - b.exp + scale) =
      roundHalf (|a.toRat| / |b.toRat| * (10 : ℚ) ^ scale) := by
  have hcoeff : 0 < b.coeff := Nat.pos_of_ne_zero (by simpa [isZero] using hb)
  have hpos : 0 < b.coeff * Nat.pow 10 (-(a.exp - b.exp + scale)).toNat :=
    Nat.mul_pos hcoeff (Nat.pow_pos (by decide))
  rw [quotientAt_eq _ hcoeff, nearest_eq_roundHalf _ hpos]
  congr 1
  -- Of the two shifts one is by no places; the other is by those that the quotient has to move.
  have hshift : ∀ p : ℤ, (10 : ℚ) ^ ((p.toNat : ℕ) : ℤ) / (10 : ℚ) ^ (((-p).toNat : ℕ) : ℤ) =
      (10 : ℚ) ^ p := by
    intro p
    rw [← zpow_sub₀ (by norm_num)]
    congr 1
    omega
  have hb' : (b.coeff : ℚ) ≠ 0 := by exact_mod_cast hcoeff.ne'
  rw [abs_toRat, abs_toRat, Nat.cast_mul, Nat.cast_mul, natPow_cast, natPow_cast,
    mul_div_mul_comm, hshift, zpow_add₀ (by norm_num), zpow_sub₀ (by norm_num)]
  ring

/-! ## The results without limits -/

/-- The quotient to a scale, without limits. -/
def exactQuotient (a b : Decimal) (scale : ℤ) : Decimal :=
  let q := quotientAt a.coeff b.coeff (a.exp - b.exp + scale)
  ⟨(a.negative != b.negative) && q != 0, q, -scale⟩

/-- The decimal rounded to an exponent, without limits. -/
def roundedAt (d : Decimal) (e : ℤ) : Decimal := ⟨d.negative, d.coeffRoundedAt e, e⟩

/-- The quotient of two numbers has one representation, whatever those of the numbers are. -/
theorem exactQuotient_eq_of_sameNumber (ha : SameNumber a a') (hb : SameNumber b b')
    (hzero : b.isZero = false) (scale : ℤ) :
    exactQuotient a b scale = exactQuotient a' b' scale := by
  have hzero' : b'.isZero = false := hb.isZero_eq ▸ hzero
  have hdigits : quotientAt a.coeff b.coeff (a.exp - b.exp + scale) =
      quotientAt a'.coeff b'.coeff (a'.exp - b'.exp + scale) := by
    rw [quotientAt_eq_roundHalf a hzero, quotientAt_eq_roundHalf a' hzero', ha, hb]
  have hsign : (a.negative != b.negative && quotientAt a'.coeff b'.coeff
      (a'.exp - b'.exp + scale) != 0) = (a'.negative != b'.negative && quotientAt a'.coeff b'.coeff
      (a'.exp - b'.exp + scale) != 0) := by
    cases hdividend : a'.isZero with
    | true =>
      have hcoeff : a'.coeff = 0 := by simpa [isZero] using hdividend
      simp [quotientAt, hcoeff]
    | false =>
      rw [ha.symm.negative_eq hdividend, hb.negative_eq hzero]
  simp only [exactQuotient, hdigits, hsign]

/-- Rounding keeps the number that is rounded, but not the sign of a zero. -/
theorem SameNumber.roundedAt (h : SameNumber d d') (e : ℤ) :
    SameNumber (d.roundedAt e) (d'.roundedAt e) := by
  have hdigits : d.coeffRoundedAt e = d'.coeffRoundedAt e := by
    rw [coeffRoundedAt_eq_roundHalf, coeffRoundedAt_eq_roundHalf, h]
  rw [Decimal.roundedAt, Decimal.roundedAt, hdigits]
  cases hzero : d.isZero with
  | true =>
    have hnone := coeffRoundedAt_of_isZero (h.isZero_eq ▸ hzero) e
    simp [SameNumber, toRat, hnone]
  | false => rw [h.negative_eq hzero]

end Decimal

end ChainedDecimal
