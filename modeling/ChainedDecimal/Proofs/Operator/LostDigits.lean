import ChainedDecimal.Proofs.Decimal.Nearest
import ChainedDecimal.Proofs.Decimal.Order
import ChainedDecimal.Proofs.Operator.Laws
import ChainedDecimal.Proofs.Operator.Scaled

/-!
# Where digits are lost

Sums, differences and products are formed exactly and then settled. Settling reports a result that
is too large, and nothing else: digits below the lowest place that a number may have are rounded
away without a fault. That place is found from the number alone. It is the lowest place of all, or
the one at which the last of all digits stands, counted from the leading one.

So a result is exact if and only if its number is a multiple of that place. Products of small
numbers need not be: the product of two decimals within the limits can even vanish.
-/

namespace ChainedDecimal

namespace Decimal

variable {d w : Decimal} {x : ℚ}

/-! ## What is left of a number -/

/-- The lowest place at which a digit of the number can be kept. -/
def lowestPlace (x : ℚ) : ℤ := max tinyExponent (Int.log 10 |x| + 1 - precision)

/-- The number, rounded to its lowest place. -/
def fitted (x : ℚ) : ℚ := roundTo (lowestPlace x) x

/-- The lowest place of a number, from its digits in a representation. -/
theorem lowestPlace_toRat (h : d.coeff ≠ 0) :
    lowestPlace d.toRat = max tinyExponent (d.exp + d.digits - precision) := by
  rw [lowestPlace, log_abs_toRat h, adjusted, Int.sub_add_cancel]

theorem fitted_zero : fitted 0 = 0 := roundTo_eq_self_iff.2 ⟨0, by simp⟩

/-- The leading digit of a number is not lost. -/
theorem pow_adjusted_le_fitted (h : d.coeff ≠ 0) (hplace : tinyExponent ≤ d.adjusted) :
    (10 : ℚ) ^ d.adjusted ≤ |fitted d.toRat| := by
  have hpos := precision_pos
  refine pow_le_abs_roundTo ?_ (pow_adjusted_le h)
  rw [lowestPlace_toRat h]
  unfold adjusted at hplace ⊢
  omega

/-! ## Settling keeps what is left -/

/-- The outcome is the number, or an overflow if the number is too large. -/
def GivesOrOverflows (outcome : Except Fault Decimal) (x : ℚ) : Prop :=
  (∃ w, outcome = .ok w ∧ w.toRat = x) ∨
    outcome = .error .overflow ∧ (10 : ℚ) ^ (maxExponent + 1) ≤ |x|

theorem pow_le_of_lt {m : ℤ} (h : maxExponent < m) (hx : (10 : ℚ) ^ m ≤ |x|) :
    (10 : ℚ) ^ (maxExponent + 1) ≤ |x| :=
  (zpow_le_zpow_right₀ (by norm_num) (Int.add_one_le_iff.2 h)).trans hx

/-- A result is refused exactly if its leading digit stands too high. -/
theorem givesOrOverflows_of_ne_zero (hx : w.toRat ≠ 0) :
    GivesOrOverflows (if maxExponent < w.adjusted then .error .overflow else .ok w) w.toRat := by
  split
  · rename_i hhigh
    have hcoeff : w.coeff ≠ 0 := by
      rw [Ne, toRat_eq_zero_iff] at hx
      simpa [isZero] using hx
    exact Or.inr ⟨rfl, pow_le_of_lt hhigh (pow_adjusted_le hcoeff)⟩
  · exact Or.inl ⟨w, rfl, rfl⟩

theorem settle_of_isZero (h : d.isZero = true) : ∃ w, d.settle = .ok w ∧ w.isZero = true := by
  have hcoeff : d.coeff = 0 := by simpa [isZero] using h
  have hshort : ¬precision < d.digits := by
    rw [digits_of_isZero h]
    exact Nat.not_lt.2 precision_pos
  rw [settle, if_pos h, if_neg hshort]
  split
  · exact ⟨_, rfl, h⟩
  · split
    · refine ⟨_, rfl, ?_⟩
      unfold fitTiny
      split
      · simp [isZero, hcoeff, dropDigits_eq_nearest, nearest]
      · exact h
    · exact ⟨d, rfl, h⟩

theorem toRat_fitTiny (d : Decimal) : d.fitTiny.toRat = roundTo tinyExponent d.toRat := by
  unfold fitTiny
  split
  · rename_i hlow
    have hcoeff : d.coeffRoundedAt tinyExponent =
        dropDigits d.coeff (tinyExponent - d.exp).toNat := by
      rw [coeffRoundedAt, if_neg (Int.not_le.2 hlow)]
    rw [← hcoeff]
    exact toRat_roundedAt d tinyExponent
  · rename_i hhigh
    exact (roundTo_toRat (Int.not_lt.1 hhigh)).symm

theorem toRat_tenth {negative : Bool} {c : ℕ} {e : ℤ} (h : 10 ∣ c) :
    toRat ⟨negative, c / 10, e + 1⟩ = toRat ⟨negative, c, e⟩ := by
  obtain ⟨n, rfl⟩ := h
  rw [Nat.mul_div_cancel_left n (by decide), toRat, toRat, zpow_add₀ (by norm_num), zpow_one]
  cases negative <;> simp <;> ring

theorem ten_dvd_pow {m : ℕ} (hm : 0 < m) : 10 ∣ Nat.pow 10 m := dvd_pow_self 10 hm.ne'

/-- Of too many digits those below the last place are rounded away, also where rounding has carried
into a new digit. -/
theorem fitPrecision_cases (h : precision < d.digits) :
    ∃ w, w.toRat = roundTo (d.exp + d.digits - precision) d.toRat ∧
      d.fitPrecision = if maxExponent < w.adjusted then .error .overflow else .ok w := by
  have hle : dropDigits d.coeff (d.digits - precision) ≤ Nat.pow 10 precision :=
    dropDigits_le (by unfold digits at h ⊢; omega)
  have hrounded : toRat ⟨d.negative, dropDigits d.coeff (d.digits - precision),
      d.exp + (d.digits - precision : ℕ)⟩ = roundTo (d.exp + d.digits - precision) d.toRat := by
    have hplace : d.exp + (d.digits - precision : ℕ) = d.exp + d.digits - precision := by omega
    have hplaces : (d.exp + d.digits - precision - d.exp).toNat = d.digits - precision := by omega
    rw [hplace, ← toRat_roundedAt, roundedAt, coeffRoundedAt, if_neg (by omega), hplaces]
  simp only [fitPrecision]
  generalize d.digits - precision = excess at hle hrounded
  generalize dropDigits d.coeff excess = kept at hle hrounded
  by_cases hcarry : precision < digitCount kept
  · have hge : Nat.pow 10 precision ≤ kept := by
      rw [← Nat.not_lt, ← digitCount_le_iff precision_pos]
      exact Nat.not_le.2 hcarry
    have hten : 10 ∣ kept := by
      rw [Nat.le_antisymm hle hge]
      exact ten_dvd_pow precision_pos
    rw [if_pos hcarry]
    exact ⟨_, (toRat_tenth hten).trans hrounded, rfl⟩
  · rw [if_neg hcarry]
    exact ⟨_, hrounded, rfl⟩

/-- Settling gives what is left of the number, or an overflow if that is too large. -/
theorem givesOrOverflows_settle (d : Decimal) : GivesOrOverflows d.settle (fitted d.toRat) := by
  have hadd := tinyExponent_add
  have hrange := minExponent_le_maxExponent
  have hpos := precision_pos
  cases hzero : d.isZero with
  | true =>
    obtain ⟨w, hw, hnone⟩ := settle_of_isZero hzero
    rw [toRat_eq_zero_iff.2 hzero, fitted_zero]
    exact Or.inl ⟨w, hw, toRat_eq_zero_iff.2 hnone⟩
  | false =>
    have hcoeff : d.coeff ≠ 0 := by simpa [isZero] using hzero
    have hlowest := lowestPlace_toRat hcoeff
    have hadjusted : d.adjusted = d.exp + d.digits - 1 := rfl
    by_cases hlow : d.adjusted < minExponent
    · have hplace : lowestPlace d.toRat = tinyExponent := by omega
      rw [settle, if_neg (by omega), if_pos hlow, fitted, hplace]
      exact Or.inl ⟨_, rfl, toRat_fitTiny d⟩
    · have hplace : lowestPlace d.toRat = d.exp + d.digits - precision := by omega
      have hleading := pow_adjusted_le_fitted hcoeff (by omega)
      by_cases hhigh : maxExponent < d.adjusted
      · rw [settle, if_pos hhigh, hzero]
        exact Or.inr ⟨rfl, pow_le_of_lt hhigh hleading⟩
      · rw [settle, if_neg hhigh, if_neg hlow]
        split
        · rename_i hlong
          obtain ⟨w, hw, heq⟩ := fitPrecision_cases hlong
          rw [← hplace] at hw
          change w.toRat = fitted d.toRat at hw
          rw [← hw] at hleading
          rw [heq, ← hw]
          exact givesOrOverflows_of_ne_zero (abs_pos.1 ((pow_exp_pos _).trans_le hleading))
        · refine Or.inl ⟨d, rfl, (roundTo_toRat ?_).symm⟩
          omega

/-! ## What the operations lose -/

theorem abs_toRat_lt_of_fits (h : w.Fits) : |w.toRat| < (10 : ℚ) ^ (maxExponent + 1) := by
  have hmax : w.adjusted + 1 ≤ maxExponent + 1 := Int.add_le_add_right h.2.2 1
  exact (abs_toRat_lt_pow w).trans_le (zpow_le_zpow_right₀ (by norm_num) hmax)

/-- The outcome is what is left of a number, in silence. Only a number of which too much is left is
refused, as an overflow; and what is left is the number itself exactly if that is a multiple of its
lowest place. -/
structure LosesSilently (outcome : Except Fault Decimal) (x : ℚ) : Prop where
  /-- What there is, is what is left of the number. -/
  number : ∀ w, outcome = .ok w → w.toRat = fitted x
  /-- The number is lost in part exactly if it has digits below its lowest place. -/
  exact_iff : ∀ w, outcome = .ok w →
    (w.toRat = x ↔ ∃ n : ℤ, x = n * (10 : ℚ) ^ lowestPlace x)
  /-- There is a fault exactly if what is left of the number is too large. -/
  fault_iff : ∀ f, outcome = .error f ↔
    f = .overflow ∧ (10 : ℚ) ^ (maxExponent + 1) ≤ |fitted x|

theorem losesSilently_settle (hx : d.toRat = x) : LosesSilently d.settle x := by
  subst hx
  have hnumber : ∀ w, d.settle = .ok w → w.toRat = fitted d.toRat := by
    intro w hw
    rcases givesOrOverflows_settle d with ⟨v, hv, hfitted⟩ | ⟨hfault, -⟩
    · rw [hw, Except.ok.injEq] at hv
      rw [hv, hfitted]
    · rw [hw] at hfault
      cases hfault
  refine ⟨hnumber, fun w hw ↦ ?_, fun f ↦ ?_⟩
  · rw [hnumber w hw]
    exact roundTo_eq_self_iff
  · rcases givesOrOverflows_settle d with ⟨v, hv, hfitted⟩ | ⟨hfault, hlarge⟩
    · have hsmall := abs_toRat_lt_of_fits (fits_of_settle hv)
      rw [hfitted] at hsmall
      simp [hv, hsmall]
    · simp [hfault, hlarge, eq_comm]

/-- **Sums, differences and products are rounded in silence.** Their outcome is the exact number as
far as it has digits at its lowest place or above; the digits below are lost without a fault. -/
theorem losesSilently (a b : Decimal) :
    LosesSilently (a.add b) (a.toRat + b.toRat) ∧
      LosesSilently (a.subtract b) (a.toRat - b.toRat) ∧
      LosesSilently (a.multiply b) (a.toRat * b.toRat) :=
  ⟨losesSilently_settle (toRat_exactSum a b),
    losesSilently_settle (toRat_exactDifference a b),
    losesSilently_settle (toRat_exactProduct a b)⟩

/-- The product of two decimals within the limits can vanish. -/
theorem not_exact_multiply :
    ¬∀ a b w : Decimal, a.Fits → b.Fits → a.multiply b = .ok w → w.toRat = a.toRat * b.toRat := by
  intro hexact
  have hzero := hexact ⟨false, 1, -1000000000000000000⟩ ⟨false, 1, -1000000000000000000⟩
    ⟨false, 0, -1999999999999999997⟩ (by decide) (by decide) (by decide)
  have hfactor : toRat ⟨false, 1, -1000000000000000000⟩ ≠ 0 := by
    rw [Ne, toRat_eq_zero_iff]
    decide
  rw [toRat_eq_zero_iff.2 (by decide)] at hzero
  exact mul_ne_zero hfactor hfactor hzero.symm

end Decimal

end ChainedDecimal
