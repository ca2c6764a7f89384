import ChainedDecimal.Operator.Apply
import ChainedDecimal.Proofs.Decimal.Fitting
import ChainedDecimal.Proofs.Decimal.Quotient

/-!
# Operators away from the limits

An operator forms a result without limits and brings it within them. Where that result fits nothing
has to be brought anywhere, so the operator is the exact one: sums and products are those of the
rational numbers, and a quotient or a rounding is the number rounded to its scale. Then it also
respects numbers. Operands that represent the same numbers give results that do, or fail alike.
-/

namespace ChainedDecimal

/-! ## Counting digits from below -/

theorem lt_digitCount_of_pow_le {n m : ℕ} (h : Nat.pow 10 m ≤ n) : m < digitCount n := by
  by_contra hle
  have hm : 0 < m := Nat.lt_of_lt_of_le (digitCount_pos n) (by omega)
  have hlt := (digitCount_le_iff hm).1 (by omega : digitCount n ≤ m)
  omega

theorem le_nearest {n d b : ℕ} (hd : 0 < d) (h : b * d ≤ n) : b ≤ nearest n d := by
  have hmul : b * (2 * d) = 2 * (b * d) := Nat.mul_left_comm b 2 d
  rw [nearest, Nat.le_div_iff_mul_le (by omega), hmul]
  omega

namespace Decimal

variable {d : Decimal}

/-- Rounding to an exponent leaves at least the digits above it. -/
theorem digits_le_roundedAt (hd : d.isZero = false) (e : ℤ) :
    d.digits + (d.exp - e) ≤ (d.roundedAt e).digits := by
  have hcoeff : 0 < d.coeff := Nat.pos_of_ne_zero (by simpa [isZero] using hd)
  have hpow := pow_digitCount_le hcoeff.ne'
  have hpos := digitCount_pos d.coeff
  show (digitCount d.coeff : ℤ) + (d.exp - e) ≤ digitCount (d.coeffRoundedAt e)
  unfold coeffRoundedAt
  split
  · have hsplit : Nat.pow 10 (digitCount d.coeff - 1 + (d.exp - e).toNat) =
        Nat.pow 10 (digitCount d.coeff - 1) * Nat.pow 10 (d.exp - e).toNat := Nat.pow_add 10 _ _
    have hmul := Nat.mul_le_mul_right (Nat.pow 10 (d.exp - e).toNat) hpow
    have hlt := lt_digitCount_of_pow_le (hsplit ▸ hmul)
    omega
  · by_cases hfew : digitCount d.coeff ≤ (e - d.exp).toNat
    · omega
    · obtain ⟨m, hm⟩ : ∃ m, digitCount d.coeff - 1 = m + (e - d.exp).toNat :=
        ⟨digitCount d.coeff - 1 - (e - d.exp).toNat, by omega⟩
      have hsplit : Nat.pow 10 (m + (e - d.exp).toNat) =
          Nat.pow 10 m * Nat.pow 10 (e - d.exp).toNat := Nat.pow_add 10 _ _
      rw [hm, hsplit] at hpow
      have hunit : 0 < Nat.pow 10 (e - d.exp).toNat := Nat.pow_pos (by decide)
      have hlt := lt_digitCount_of_pow_le (le_nearest hunit hpow)
      rw [dropDigits_eq_nearest]
      omega

/-! ## Operations whose result fits -/

theorem exp_le_of_fits (h : d.Fits) : d.exp ≤ maxExponent := by
  obtain ⟨-, -, hmax⟩ := h
  have hpos : 0 < d.digits := digitCount_pos d.coeff
  unfold adjusted at hmax
  omega

theorem placed_of_fits {negative : Bool} {coeff : ℕ} {exp : ℤ} (h : Fits ⟨negative, coeff, exp⟩) :
    placed negative coeff exp = .ok ⟨negative, coeff, exp⟩ := by
  have hhigh : exp ≤ maxExponent := exp_le_of_fits h
  have hlow : tinyExponent ≤ exp := h.2.1
  have hshift : ¬maxShift < exp.natAbs := by
    unfold maxShift
    unfold tinyExponent minExponent at hlow
    have hmax : 0 ≤ maxExponent := by decide
    omega
  rw [placed, if_neg hshift, settle_of_fits h]

theorem quantize_of_fits {e : ℤ} (h : (d.roundedAt e).Fits) :
    d.quantize e = .ok (d.roundedAt e) := by
  have hhigh : e ≤ maxExponent := exp_le_of_fits h
  have hlow : tinyExponent ≤ e := h.2.1
  rw [quantize, if_neg (by omega)]
  split
  · rename_i hzero
    rw [roundedAt, coeffRoundedAt_of_isZero hzero] at h ⊢
    exact settle_of_fits h
  · rename_i hzero
    have hdigits := digits_le_roundedAt (by simpa using hzero) e
    have hfew := h.1
    have hmax := h.2.2
    rw [if_neg (by omega)]
    have hrounded : ¬(precision < (d.roundedAt e).digits ∨
        maxExponent < (d.roundedAt e).adjusted) := by
      omega
    exact (if_neg hrounded).trans (settle_of_fits h)

/-- The unit of a scale fits if anything that is rounded to the scale does. -/
theorem fits_unit {e : ℤ} (h : (d.roundedAt e).Fits) : Fits ⟨false, 1, e⟩ := by
  have hhigh : e ≤ maxExponent := exp_le_of_fits h
  have hdigits : digitCount 1 = 1 := rfl
  have hpos := precision_pos
  exact fits_mk.2 ⟨by omega, h.2.1, by omega⟩

theorem round_of_fits {scale : ℤ} (h : (d.roundedAt (-scale)).Fits) :
    d.round scale = .ok (d.roundedAt (-scale)) := by
  rw [round, placed_of_fits (fits_unit h)]
  exact quantize_of_fits h

theorem divide_of_fits {a b : Decimal} {scale : ℤ} (hb : b.isZero = false)
    (h : (exactQuotient a b scale).Fits) : a.divide b scale = .ok (exactQuotient a b scale) := by
  rw [divide_of_not_isZero hb]
  exact placed_of_fits h

end Decimal

/-! ## The exact operators -/

/-- What a binary operator comes to without limits. -/
def BinaryOp.exact (op : BinaryOp) (a b : Decimal) (scale : Argument) : Except Fault Decimal :=
  match op with
  | .add => .ok (Decimal.exactSum a b)
  | .subtract => .ok (Decimal.exactSum a b.flip)
  | .multiply => .ok (Decimal.exactProduct a b)
  | .divide => scale.toScale.bind fun s ↦
      if b.isZero then .error (.divisionByZero (.finite a) b) else .ok (Decimal.exactQuotient a b s)

/-- What a unary operator comes to without limits. -/
def UnaryOp.exact (op : UnaryOp) (d : Decimal) (scale : Argument) : Except Fault Decimal :=
  match op with
  | .negate => .ok { d with negative := !d.negative && !d.isZero }
  | .absolute => .ok { d with negative := false }
  | .round => scale.toScale.map fun s ↦ d.roundedAt (-s)

theorem BinaryOp.apply_eq_exact {op : BinaryOp} {a b : Decimal} {scale : Argument}
    (h : ∀ w, op.exact a b scale = .ok w → w.Fits) : op.apply a b scale = op.exact a b scale := by
  match op with
  | .add | .subtract | .multiply => exact Decimal.settle_of_fits (h _ rfl)
  | .divide =>
    unfold exact at h
    unfold apply exact
    cases hs : scale.toScale with
    | error f => rfl
    | ok s =>
      rw [hs] at h
      cases hb : b.isZero with
      | true => simp [Except.bind, Decimal.divide, hb]
      | false =>
        simp only [Except.bind, hb, Bool.false_eq_true, if_false] at h ⊢
        exact Decimal.divide_of_fits hb (h _ rfl)

theorem UnaryOp.apply_eq_exact {op : UnaryOp} {d : Decimal} {scale : Argument}
    (h : ∀ w, op.exact d scale = .ok w → w.Fits) : op.apply d scale = op.exact d scale := by
  match op with
  | .negate | .absolute => exact Decimal.settle_of_fits (h _ rfl)
  | .round =>
    unfold exact at h
    unfold apply exact
    cases hs : scale.toScale with
    | error f => rfl
    | ok s =>
      rw [hs] at h
      exact Decimal.round_of_fits (h _ rfl)

end ChainedDecimal
