import ChainedDecimal.Decimal.Arithmetic
import Mathlib.Algebra.Order.Field.Rat
import Mathlib.Algebra.Field.Rat
import Mathlib.Data.Rat.Cast.Order
import Mathlib.Tactic.FieldSimp
import Mathlib.Tactic.Ring
import Mathlib.Tactic.Positivity

/-!
# The number of a decimal

A decimal represents a rational number, and `toRat` is that number. The exact operations are the
operations on rational numbers, whatever representations they are given; and two decimals that are
the same by their reduced forms are the same by their numbers.
-/

namespace ChainedDecimal

namespace Decimal

/-- The number that a decimal represents. -/
def toRat (d : Decimal) : ℚ := (if d.negative then -(d.coeff : ℚ) else d.coeff) * (10 : ℚ) ^ d.exp

/-- Two decimals represent the same number. -/
def SameNumber (a b : Decimal) : Prop := a.toRat = b.toRat

variable {a b d : Decimal}

@[refl] theorem SameNumber.refl (d : Decimal) : SameNumber d d := rfl

theorem SameNumber.symm (h : SameNumber a b) : SameNumber b a := Eq.symm h

theorem SameNumber.trans (h : SameNumber a b) (h' : SameNumber b d) : SameNumber a d :=
  Eq.trans h h'

theorem pow_exp_pos (e : ℤ) : (0 : ℚ) < (10 : ℚ) ^ e := zpow_pos (by norm_num) e

theorem natPow_cast (k : ℕ) : ((Nat.pow 10 k : ℕ) : ℚ) = (10 : ℚ) ^ (k : ℤ) := by
  rw [Nat.pow_eq, Nat.cast_pow, zpow_natCast]
  rfl

theorem toRat_eq_zero_iff : d.toRat = 0 ↔ d.isZero = true := by
  have hpow := (pow_exp_pos d.exp).ne'
  rw [toRat, mul_eq_zero, or_iff_left hpow]
  cases d.negative <;> simp [isZero]

/-- The coefficient at a lower exponent represents the same number there. -/
theorem toRat_eq_signedAt {e : ℤ} (h : e ≤ d.exp) : d.toRat = d.signedAt e * (10 : ℚ) ^ e := by
  have hcoeff : ((d.coeffAt e : ℕ) : ℚ) * (10 : ℚ) ^ e = d.coeff * (10 : ℚ) ^ d.exp := by
    have hplaces : (((d.exp - e).toNat : ℕ) : ℤ) = d.exp - e := Int.toNat_of_nonneg (by omega)
    rw [coeffAt_eq, Nat.cast_mul, natPow_cast, hplaces, mul_assoc, ← zpow_add₀ (by norm_num)]
    congr 2
    omega
  rw [toRat, signedAt]
  cases d.negative with
  | false =>
    rw [if_neg (by decide), if_neg (by decide), Int.cast_natCast, hcoeff]
  | true =>
    rw [if_pos rfl, if_pos rfl, Int.cast_neg, Int.cast_natCast, neg_mul, neg_mul, hcoeff]

/-- An integer at an exponent, with the sign kept apart, represents the integer there. -/
theorem toRat_natAbs {negative : Bool} {n e : ℤ} (h : n ≠ 0 → negative = decide (n < 0)) :
    toRat ⟨negative, n.natAbs, e⟩ = n * (10 : ℚ) ^ e := by
  by_cases hzero : n = 0
  · simp [toRat, hzero]
  · rw [h hzero, toRat, Nat.cast_natAbs]
    by_cases hneg : n < 0
    · simp [hneg, abs_of_neg]
    · simp [hneg, abs_of_nonneg (Int.not_lt.1 hneg)]

/-! ## Exact operations -/

theorem toRat_ofInt (n : ℤ) : (ofInt n).toRat = n := by
  rw [ofInt, toRat_natAbs fun _ ↦ rfl, zpow_zero, mul_one]

@[simp] theorem toRat_flip (d : Decimal) : d.flip.toRat = -d.toRat := by
  cases h : d.negative <;> simp [toRat, flip, h]

theorem toRat_exactSum (a b : Decimal) : (exactSum a b).toRat = a.toRat + b.toRat := by
  have ha : a.toRat = a.signedAt (min a.exp b.exp) * (10 : ℚ) ^ min a.exp b.exp :=
    toRat_eq_signedAt (by omega)
  have hb : b.toRat = b.signedAt (min a.exp b.exp) * (10 : ℚ) ^ min a.exp b.exp :=
    toRat_eq_signedAt (by omega)
  rw [exactSum, toRat_natAbs fun h ↦ if_neg h, ha, hb, Int.cast_add, add_mul]

theorem toRat_exactProduct (a b : Decimal) : (exactProduct a b).toRat = a.toRat * b.toRat := by
  rw [toRat, toRat, toRat, exactProduct, zpow_add₀ (by norm_num), Nat.cast_mul]
  cases a.negative <;> cases b.negative <;> simp <;> ring

/-- Without its sign a decimal represents the absolute value. -/
theorem toRat_positive (d : Decimal) : toRat { d with negative := false } = |d.toRat| := by
  have hpow := pow_exp_pos d.exp
  cases h : d.negative <;> simp [toRat, h, abs_mul, abs_of_pos hpow]

theorem abs_toRat (d : Decimal) : |d.toRat| = d.coeff * (10 : ℚ) ^ d.exp := by
  rw [← toRat_positive]
  rfl

/-- The opposite of a decimal, where a zero is positive. -/
theorem toRat_opposite (d : Decimal) :
    toRat { d with negative := !d.negative && !d.isZero } = -d.toRat := by
  by_cases hzero : d.coeff = 0
  · simp [toRat, hzero]
  · cases h : d.negative <;> simp [toRat, isZero, h, hzero]

/-! ## Reduced forms -/

theorem stripZeros_cast (c : ℕ) (e : ℤ) :
    ((stripZeros c e).1 : ℚ) * (10 : ℚ) ^ (stripZeros c e).2 = c * (10 : ℚ) ^ e := by
  fun_induction stripZeros c e with
  | case1 c e h ih =>
    have hc : c = c / 10 * 10 := by omega
    rw [ih, zpow_add₀ (by norm_num), zpow_one]
    conv_rhs => rw [hc]
    push_cast
    ring
  | case2 c e h => rfl

theorem stripZeros_ne_zero {c : ℕ} (e : ℤ) (h : c ≠ 0) : (stripZeros c e).1 % 10 ≠ 0 := by
  fun_induction stripZeros c e with
  | case1 c e hc ih => exact ih (by omega)
  | case2 c e hc => omega

theorem toRat_reduced (d : Decimal) : d.reduced.toRat = d.toRat := by
  unfold reduced
  split
  · rename_i hzero
    have hrat := toRat_eq_zero_iff.2 hzero
    rw [hrat]
    simp [toRat]
  · have hstrip := stripZeros_cast d.coeff d.exp
    cases h : d.negative <;> simp [toRat, h, hstrip]

/-- Without trailing zeros there is one way to write a number as a coefficient and an exponent. -/
theorem eq_of_mul_pow_eq {m n : ℕ} {e f : ℤ} (hm : m % 10 ≠ 0) (hn : n % 10 ≠ 0)
    (h : (m : ℚ) * (10 : ℚ) ^ e = n * (10 : ℚ) ^ f) : m = n ∧ e = f := by
  wlog hle : e ≤ f generalizing m n e f with hsymm
  · obtain ⟨rfl, rfl⟩ := hsymm hn hm h.symm (by omega)
    exact ⟨rfl, rfl⟩
  obtain ⟨k, rfl⟩ : ∃ k : ℕ, f = e + k := ⟨(f - e).toNat, by omega⟩
  have hpow := (pow_exp_pos e).ne'
  have hshift : (m : ℚ) = n * (10 : ℚ) ^ k := by
    rw [zpow_add₀ (by norm_num), zpow_natCast] at h
    field_simp at h
    exact h
  have hnat : m = n * 10 ^ k := by exact_mod_cast hshift
  -- A power of ten in the coefficient would leave it a trailing zero.
  cases k with
  | zero => simpa using hnat
  | succ k =>
    rw [pow_succ, ← mul_assoc] at hnat
    omega

theorem SameNumber.isZero_eq (h : SameNumber a b) : a.isZero = b.isZero := by
  rw [Bool.eq_iff_iff, ← toRat_eq_zero_iff, ← toRat_eq_zero_iff, h]

/-- A decimal is found to be negative exactly if its number is. -/
theorem isNegative_iff : d.isNegative = true ↔ d.toRat < 0 := by
  by_cases hzero : d.coeff = 0
  · simp [isNegative, isZero, toRat, hzero]
  · have hcoeff : 0 < (d.coeff : ℚ) := by exact_mod_cast Nat.pos_of_ne_zero hzero
    have hpos := mul_pos hcoeff (pow_exp_pos d.exp)
    cases hsign : d.negative with
    | false => simp [isNegative, isZero, toRat, hsign, hpos.le]
    | true => simp [isNegative, isZero, toRat, hzero, hsign, hpos]

/-- The sign of a number other than zero is its sign bit. -/
theorem SameNumber.negative_eq (h : SameNumber a b) (ha : a.isZero = false) :
    a.negative = b.negative := by
  have hsign : ∀ d : Decimal, d.isZero = false → d.isNegative = d.negative := fun d hd ↦ by
    simp [isNegative, hd]
  rw [← hsign a ha, ← hsign b (h.isZero_eq ▸ ha), Bool.eq_iff_iff, isNegative_iff,
    isNegative_iff, h]

theorem reduced_eq_of_sameNumber (ha : a.isZero = false) (h : SameNumber a b) :
    a.reduced = b.reduced := by
  have hb : b.isZero = false := h.isZero_eq ▸ ha
  have hne : ∀ d : Decimal, d.isZero = false → d.coeff ≠ 0 := fun d hd ↦ by simpa [isZero] using hd
  have habs : (a.coeff : ℚ) * (10 : ℚ) ^ a.exp = b.coeff * (10 : ℚ) ^ b.exp := by
    rw [← abs_toRat, ← abs_toRat, h]
  rw [← stripZeros_cast, ← stripZeros_cast b.coeff] at habs
  obtain ⟨hcoeff, hexp⟩ := eq_of_mul_pow_eq (stripZeros_ne_zero a.exp (hne a ha))
    (stripZeros_ne_zero b.exp (hne b hb)) habs
  rw [reduced, reduced, if_neg (by simp [ha]), if_neg (by simp [hb]), h.negative_eq ha, hcoeff,
    hexp]

/-- Two decimals are found to be the same exactly if they represent the same number. -/
theorem sameValue_iff : a.sameValue b = true ↔ SameNumber a b := by
  rw [sameValue, Bool.or_eq_true, Bool.and_eq_true, beq_iff_eq]
  constructor
  · rintro (⟨ha, hb⟩ | hreduced)
    · rw [SameNumber, toRat_eq_zero_iff.2 ha, toRat_eq_zero_iff.2 hb]
    · rw [SameNumber, ← toRat_reduced, hreduced, toRat_reduced]
  · intro h
    cases ha : a.isZero with
    | true => exact Or.inl ⟨rfl, h.isZero_eq ▸ ha⟩
    | false => exact Or.inr (reduced_eq_of_sameNumber ha h)

end Decimal

end ChainedDecimal
