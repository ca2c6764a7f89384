import ChainedDecimal.Proofs.Decimal.Rounding
import Mathlib.Tactic.Linarith

/-!
# Rounding a number to a place

A decimal rounded to an exponent is its number rounded to that place: the nearest multiple of the
power of ten, and of two that are equally near the one further from zero. What holds of the rounding
of numbers to integers then holds at every place: it respects the order and the sign, it leaves
alone what is a multiple already, and it moves a number by at most half a place.
-/

namespace ChainedDecimal

variable {x y : ℚ}

/-! ## Numbers to integers -/

theorem roundHalf_mono (h : x ≤ y) : roundHalf x ≤ roundHalf y := by
  have hshift : x + 1 / 2 ≤ y + 1 / 2 := by linarith
  exact Nat.floor_mono hshift

theorem abs_roundHalf_sub_le (h : 0 ≤ x) : |(roundHalf x : ℚ) - x| ≤ 1 / 2 := by
  have hpos : 0 ≤ x + 1 / 2 := by linarith
  have hle : (roundHalf x : ℚ) ≤ x + 1 / 2 := Nat.floor_le hpos
  have hlt : x + 1 / 2 < roundHalf x + 1 := Nat.lt_floor_add_one _
  rw [abs_le]
  constructor <;> linarith

/-- A number to the nearest integer, a half going away from zero. -/
def roundAway (x : ℚ) : ℤ := if x < 0 then -(roundHalf (-x) : ℤ) else roundHalf x

theorem roundAway_of_nonneg (h : 0 ≤ x) : roundAway x = roundHalf x := if_neg h.not_gt

theorem roundAway_of_nonpos (h : x ≤ 0) : roundAway x = -(roundHalf (-x) : ℤ) := by
  rcases h.lt_or_eq with hneg | rfl
  · exact if_pos hneg
  · rw [roundAway_of_nonneg le_rfl, neg_zero, roundHalf_zero, Nat.cast_zero, neg_zero]

theorem roundAway_neg (x : ℚ) : roundAway (-x) = -roundAway x := by
  rcases le_total 0 x with h | h
  · rw [roundAway_of_nonneg h, roundAway_of_nonpos (neg_nonpos.2 h), neg_neg]
  · rw [roundAway_of_nonpos h, roundAway_of_nonneg (neg_nonneg.2 h), neg_neg]

theorem roundAway_mono (h : x ≤ y) : roundAway x ≤ roundAway y := by
  rcases le_total 0 x with hx | hx
  · rw [roundAway_of_nonneg hx, roundAway_of_nonneg (hx.trans h)]
    exact_mod_cast roundHalf_mono h
  · rw [roundAway_of_nonpos hx]
    rcases le_total 0 y with hy | hy
    · rw [roundAway_of_nonneg hy]
      omega
    · rw [roundAway_of_nonpos hy, neg_le_neg_iff]
      exact_mod_cast roundHalf_mono (neg_le_neg h)

theorem roundAway_intCast (n : ℤ) : roundAway n = n := by
  obtain ⟨k, rfl | rfl⟩ := n.eq_nat_or_neg
  · rw [Int.cast_natCast, roundAway_of_nonneg (Nat.cast_nonneg k), roundHalf_natCast]
  · rw [Int.cast_neg, Int.cast_natCast, roundAway_neg, roundAway_of_nonneg (Nat.cast_nonneg k),
      roundHalf_natCast]

theorem abs_roundAway_sub_le (x : ℚ) : |(roundAway x : ℚ) - x| ≤ 1 / 2 := by
  rcases le_total 0 x with h | h
  · rw [roundAway_of_nonneg h, Int.cast_natCast]
    exact abs_roundHalf_sub_le h
  · have hopposite : -(roundHalf (-x) : ℚ) - x = -((roundHalf (-x) : ℚ) - -x) := by ring
    rw [roundAway_of_nonpos h, Int.cast_neg, Int.cast_natCast, hopposite, abs_neg]
    exact abs_roundHalf_sub_le (neg_nonneg.2 h)

/-! ## Numbers to places -/

/-- A number to the nearest multiple of a power of ten, a half going away from zero. -/
def roundTo (e : ℤ) (x : ℚ) : ℚ := roundAway (x * (10 : ℚ) ^ (-e)) * (10 : ℚ) ^ e

theorem pow_neg_mul_pow (e : ℤ) : (10 : ℚ) ^ (-e) * (10 : ℚ) ^ e = 1 := by
  rw [← zpow_add₀ (by norm_num), Int.add_left_neg, zpow_zero]

theorem roundTo_neg (e : ℤ) (x : ℚ) : roundTo e (-x) = -roundTo e x := by
  rw [roundTo, roundTo, neg_mul, roundAway_neg, Int.cast_neg, neg_mul]

theorem roundTo_mono (e : ℤ) (h : x ≤ y) : roundTo e x ≤ roundTo e y := by
  have hunits : x * (10 : ℚ) ^ (-e) ≤ y * (10 : ℚ) ^ (-e) :=
    mul_le_mul_of_nonneg_right h (Decimal.pow_exp_pos _).le
  have hround : ((roundAway (x * (10 : ℚ) ^ (-e)) : ℤ) : ℚ) ≤
      roundAway (y * (10 : ℚ) ^ (-e)) := by
    exact_mod_cast roundAway_mono hunits
  exact mul_le_mul_of_nonneg_right hround (Decimal.pow_exp_pos _).le

theorem abs_roundTo_sub_le (e : ℤ) (x : ℚ) : |roundTo e x - x| ≤ 1 / 2 * (10 : ℚ) ^ e := by
  have hpow := Decimal.pow_exp_pos e
  have hunits : roundTo e x - x =
      (roundAway (x * (10 : ℚ) ^ (-e)) - x * (10 : ℚ) ^ (-e)) * (10 : ℚ) ^ e := by
    rw [roundTo, sub_mul, mul_assoc x, pow_neg_mul_pow, mul_one]
  rw [hunits, abs_mul, abs_of_pos hpow]
  exact mul_le_mul_of_nonneg_right (abs_roundAway_sub_le _) hpow.le

/-- What rounding leaves alone are the multiples of the place. -/
theorem roundTo_eq_self_iff {e : ℤ} : roundTo e x = x ↔ ∃ n : ℤ, x = n * (10 : ℚ) ^ e := by
  constructor
  · intro h
    exact ⟨_, h.symm⟩
  · rintro ⟨n, rfl⟩
    rw [roundTo, mul_assoc, mul_comm ((10 : ℚ) ^ e), pow_neg_mul_pow, mul_one, roundAway_intCast]

theorem roundTo_pow {e m : ℤ} (h : e ≤ m) : roundTo e ((10 : ℚ) ^ m) = (10 : ℚ) ^ m := by
  have hplaces : (((m - e).toNat : ℕ) : ℤ) = m - e := Int.toNat_of_nonneg (by omega)
  refine roundTo_eq_self_iff.2 ⟨(Nat.pow 10 (m - e).toNat : ℕ), ?_⟩
  rw [Int.cast_natCast, Decimal.natPow_cast, hplaces, ← zpow_add₀ (by norm_num),
    Int.sub_add_cancel]

/-- Rounding does not lose a digit that stands at the place or above it. -/
theorem pow_le_abs_roundTo {e m : ℤ} (h : e ≤ m) (hx : (10 : ℚ) ^ m ≤ |x|) :
    (10 : ℚ) ^ m ≤ |roundTo e x| := by
  rw [← roundTo_pow h]
  rcases le_total 0 x with hpos | hneg
  · rw [abs_of_nonneg hpos] at hx
    exact (roundTo_mono e hx).trans (le_abs_self _)
  · rw [abs_of_nonpos hneg] at hx
    rw [← abs_neg, ← roundTo_neg]
    exact (roundTo_mono e hx).trans (le_abs_self _)

/-! ## Decimals to exponents -/

namespace Decimal

variable {d : Decimal} {e : ℤ}

theorem toRat_eq_abs (d : Decimal) : d.toRat = if d.negative then -|d.toRat| else |d.toRat| := by
  rw [abs_toRat, toRat]
  split
  · rw [neg_mul]
  · rfl

/-- Rounding a decimal to an exponent is rounding its number to that place. -/
theorem toRat_roundedAt (d : Decimal) (e : ℤ) : (d.roundedAt e).toRat = roundTo e d.toRat := by
  have hunits : 0 ≤ |d.toRat| * (10 : ℚ) ^ (-e) :=
    mul_nonneg (abs_nonneg _) (pow_exp_pos _).le
  have hcoeff : (d.coeffRoundedAt e : ℚ) * (10 : ℚ) ^ e = roundTo e |d.toRat| := by
    rw [roundTo, roundAway_of_nonneg hunits, coeffRoundedAt_eq_roundHalf, Int.cast_natCast]
  rw [toRat, roundedAt, toRat_eq_abs d]
  cases d.negative with
  | false => exact hcoeff
  | true =>
    rw [if_pos rfl, if_pos rfl, neg_mul, hcoeff, roundTo_neg]

/-- What ends at the place or above it is not rounded. -/
theorem roundTo_toRat (h : e ≤ d.exp) : roundTo e d.toRat = d.toRat :=
  roundTo_eq_self_iff.2 ⟨_, toRat_eq_signedAt h⟩

/-- What ends at the place is left as it is. -/
theorem roundedAt_self (h : d.exp = e) : d.roundedAt e = d := by
  subst h
  rw [roundedAt, coeffRoundedAt, if_pos (Int.le_refl _), Int.sub_self]
  show (⟨d.negative, d.coeff * 1, d.exp⟩ : Decimal) = d
  rw [Nat.mul_one]

end Decimal

end ChainedDecimal
