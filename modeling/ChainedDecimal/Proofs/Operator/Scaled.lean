import ChainedDecimal.Proofs.Operator.Exact

/-!
# Division and rounding to a scale

A quotient is found by dividing integers, after one coefficient was shifted against the other, and a
rounding by dropping digits of the coefficient or adding zeros to it. Neither looks at the number
that it is about. Here both are told by that number: the coefficient of the result is the absolute
value in units of the scale, a half more and then rounded down.

So the two are one rounding. A value divided by one is the value rounded, but for the sign of a
zero, which rounding keeps and division never gives.

## When there is a result

A division looks at its scale first and at the divisor second, and whatever fails after that is a
matter of the limits. Rounding goes through the unit of its scale. As long as the unit is within the
limits itself, rounding succeeds exactly if its result fits, and so does division.
-/

namespace ChainedDecimal

namespace Decimal

variable {a b d w : Decimal} {f : Fault} {scale : ℤ}

/-! ## Faults at the limits -/

theorem eq_overflow_of_fitPrecision (h : d.fitPrecision = .error f) : f = .overflow :=
  Fault.eq_of_check h

/-- Rounding to the limits fails only for what is too large. -/
theorem eq_overflow_of_settle (h : d.settle = .error f) : f = .overflow := by
  unfold settle at h
  split at h
  · split at h
    · cases h
    · cases h
      rfl
  · split at h
    · cases h
    · split at h
      · exact eq_overflow_of_fitPrecision h
      · cases h

/-- Once there is a quotient, only the limits can be in the way. -/
theorem limit_of_placed {negative : Bool} {coeff : ℕ} {exp : ℤ}
    (h : placed negative coeff exp = .error f) : f = .invalidOperation ∨ f = .overflow := by
  unfold placed at h
  split at h
  · cases h
    exact Or.inl rfl
  · exact Or.inr (eq_overflow_of_settle h)

/-! ## Roundings -/

/-- Rounding to an exponent succeeds exactly if the rounded decimal fits. -/
theorem quantize_eq_ok_iff {e : ℤ} :
    d.quantize e = .ok w ↔ (d.roundedAt e).Fits ∧ w = d.roundedAt e := by
  constructor
  · intro h
    suffices hfits : (d.roundedAt e).Fits by
      rw [quantize_of_fits hfits, Except.ok.injEq] at h
      exact ⟨hfits, h.symm⟩
    obtain ⟨hrange, h⟩ := Fault.check_eq_ok.1 h
    split at h
    · rename_i hzero
      have hpos := precision_pos
      rw [roundedAt, coeffRoundedAt_of_isZero hzero, fits_mk, digitCount_zero]
      omega
    · obtain ⟨-, h⟩ := Fault.check_eq_ok.1 h
      obtain ⟨hrounded, -⟩ := Fault.check_eq_ok.1 h
      have hdigits : ¬(precision < (d.roundedAt e).digits ∨
          maxExponent < (d.roundedAt e).adjusted) := hrounded
      have hlow : tinyExponent ≤ (d.roundedAt e).exp := by
        show tinyExponent ≤ e
        omega
      exact ⟨by omega, hlow, by omega⟩
  · rintro ⟨hfits, rfl⟩
    exact quantize_of_fits hfits

/-- As long as the unit of the scale is within the limits, rounding succeeds exactly if the rounded
decimal fits. -/
theorem round_eq_ok_iff (hlow : -maxExponent ≤ scale) (hhigh : scale ≤ -tinyExponent) :
    d.round scale = .ok w ↔ (d.roundedAt (-scale)).Fits ∧ w = d.roundedAt (-scale) := by
  have hpos := precision_pos
  have hdigits : digitCount 1 = 1 := rfl
  have hunit : Fits ⟨false, 1, -scale⟩ := fits_mk.2 (by omega)
  rw [round, placed_of_fits hunit]
  exact quantize_eq_ok_iff

/-- A value divided by one is the value rounded, where a zero is positive. -/
theorem exactQuotient_one (d : Decimal) (scale : ℤ) :
    exactQuotient d .one scale =
      { d.roundedAt (-scale) with
        negative := d.negative && !(d.roundedAt (-scale)).isZero } := by
  have hone : one.toRat = 1 := by norm_num [one, toRat]
  have hdigits : quotientAt d.coeff one.coeff (d.exp - one.exp + scale) =
      d.coeffRoundedAt (-scale) := by
    rw [quotientAt_eq_roundHalf d (by decide), coeffRoundedAt_eq_roundHalf, hone, abs_one, div_one,
      Int.neg_neg]
  simp only [exactQuotient, hdigits, roundedAt, isZero]
  cases d.negative <;> simp [one, bne]

/-! ## When there is no quotient -/

theorem divide_of_isZero (hb : b.isZero = true) (scale : ℤ) :
    a.divide b scale = .error (.divisionByZero (.finite a) b) := by
  rw [divide, if_pos hb]

theorem limit_of_divide (hb : b.isZero = false) (h : a.divide b scale = .error f) :
    f = .invalidOperation ∨ f = .overflow := by
  rw [divide, if_neg (by simp [hb])] at h
  exact limit_of_placed h

end Decimal

/-- The outcome is a fault of a kind. -/
def FailsAs {α : Type} (kind : FaultKind) (x : Except Fault α) : Prop :=
  ∃ f, x = .error f ∧ f.kind = kind

theorem failsAs_error {α : Type} {kind : FaultKind} {f : Fault} :
    FailsAs kind (.error f : Except Fault α) ↔ f.kind = kind := by
  simp [FailsAs]

namespace BinaryOp

variable {a b : Decimal} {scale : Argument} {n : ℤ}

/-- A scale that is no integer is refused before the divisor is looked at. -/
theorem apply_divide_of_ne_int (h : ∀ n, scale ≠ .int n) :
    divide.apply a b scale = .error (.unusableScale scale.typeName) := by
  cases scale with
  | int n => exact absurd rfl (h n)
  | _ => rfl

/-- Whatever else division fails with, it is no unusable input. -/
theorem not_failsAs_invalidInput_divide : ¬FailsAs .invalidInput (a.divide b n) := by
  rintro ⟨f, hf, hkind⟩
  cases hb : b.isZero with
  | true =>
    rw [Decimal.divide_of_isZero hb, Except.error.injEq] at hf
    subst hf
    cases hkind
  | false => obtain rfl | rfl := Decimal.limit_of_divide hb hf <;> cases hkind

theorem failsAs_divisionByZero_divide_iff :
    FailsAs .divisionByZero (a.divide b n) ↔ b.isZero = true := by
  cases hb : b.isZero with
  | true => simp [Decimal.divide_of_isZero hb, failsAs_error, Fault.kind]
  | false =>
    simp only [Bool.false_eq_true, iff_false]
    rintro ⟨f, hf, hkind⟩
    obtain rfl | rfl := Decimal.limit_of_divide hb hf <;> cases hkind

theorem failsAs_invalidInput_apply_divide_iff :
    FailsAs .invalidInput (divide.apply a b scale) ↔ ∀ n, scale ≠ .int n := by
  constructor
  · rintro h n rfl
    exact not_failsAs_invalidInput_divide h
  · intro h
    rw [apply_divide_of_ne_int h, failsAs_error]
    rfl

theorem failsAs_divisionByZero_apply_divide_iff :
    FailsAs .divisionByZero (divide.apply a b scale) ↔ (∃ n, scale = .int n) ∧ b.coeff = 0 := by
  by_cases hint : ∃ n, scale = .int n
  · obtain ⟨n, rfl⟩ := hint
    have hzero : b.isZero = true ↔ b.coeff = 0 := by simp [Decimal.isZero]
    rw [← hzero, and_iff_right ⟨n, rfl⟩]
    exact failsAs_divisionByZero_divide_iff
  · have hscale : ∀ n, scale ≠ .int n := by simpa using hint
    rw [apply_divide_of_ne_int hscale, failsAs_error]
    simp [hint, Fault.kind]

/-- **Division is correctly rounded.** It is refused as unusable input exactly if the scale is no
integer, and otherwise as a division by zero exactly if the divisor is a zero. Otherwise, if the
rounded quotient is within the limits, its coefficient is that of the number rounded half up at the
scale, and it is negative exactly if the number is and something is left of it. -/
theorem divide_correctlyRounded (a b : Decimal) (scale : Argument) :
    (FailsAs .invalidInput (divide.apply a b scale) ↔ ∀ n, scale ≠ .int n) ∧
      (FailsAs .divisionByZero (divide.apply a b scale) ↔
        (∃ n, scale = .int n) ∧ b.coeff = 0) ∧
      ∀ n q, scale = .int n → b.coeff ≠ 0 →
        q = ⌊|a.toRat / b.toRat| * (10 : ℚ) ^ n + 1 / 2⌋₊ → Decimal.Fits ⟨false, q, -n⟩ →
          ∃ negative, divide.apply a b scale = .ok ⟨negative, q, -n⟩ ∧
            (negative = true ↔ a.toRat / b.toRat < 0 ∧ q ≠ 0) := by
  refine ⟨failsAs_invalidInput_apply_divide_iff, failsAs_divisionByZero_apply_divide_iff, ?_⟩
  rintro n q rfl hdivisor hq hfits
  have hb : b.isZero = false := by simpa [Decimal.isZero] using hdivisor
  have hcoeff : (Decimal.exactQuotient a b n).coeff = q :=
    (Decimal.coeff_exactQuotient a hb n).trans hq.symm
  have hsign := Decimal.negative_exactQuotient_iff a hb n
  rw [hcoeff] at hsign
  refine ⟨(Decimal.exactQuotient a b n).negative, ?_, hsign⟩
  subst hcoeff
  exact Decimal.divide_of_fits hb hfits

/-- Minus 12.5 at the scale zero, where a half goes away from zero. -/
theorem divide_correctlyRounded_tie :
    (⟨true, 125, 1⟩ : Decimal).coeff ≠ 0 ∧ Decimal.Fits ⟨false, 13, 0⟩ ∧
      ∃ negative, divide.apply ⟨true, 125, 1⟩ ⟨false, 100, 0⟩ (.int 0) = .ok ⟨negative, 13, 0⟩ := by
  have hquotient : (13 : ℕ) = ⌊|(⟨true, 125, 1⟩ : Decimal).toRat /
      (⟨false, 100, 0⟩ : Decimal).toRat| * (10 : ℚ) ^ (0 : ℤ) + 1 / 2⌋₊ := by
    norm_num [Decimal.toRat]
  obtain ⟨negative, hok, -⟩ := (divide_correctlyRounded ⟨true, 125, 1⟩ ⟨false, 100, 0⟩ (.int 0)).2.2
    0 13 rfl (by decide) hquotient (by decide)
  exact ⟨by decide, by decide, negative, hok⟩

end BinaryOp

/-- **Rounding and division by one are the same rounding.** Where a value can be rounded to a scale
whose unit is within the limits, it can be divided by one at that scale as well, and the two results
have one coefficient and the exponent of the scale. They differ at most in the sign of a zero, which
rounding takes from the value. -/
theorem BinaryOp.divide_one_of_round {v w : Decimal} {scale : ℤ}
    (hlow : -Decimal.maxExponent ≤ scale) (hhigh : scale ≤ -Decimal.tinyExponent)
    (h : UnaryOp.round.apply v (.int scale) = .ok w) :
    ∃ u, BinaryOp.divide.apply v .one (.int scale) = .ok u ∧ u.coeff = w.coeff ∧
      u.exp = -scale ∧ w.exp = -scale ∧ (w.coeff ≠ 0 → u = w) ∧
      (w.coeff = 0 → w.negative = v.negative ∧ u.negative = false) := by
  obtain ⟨hfits, rfl⟩ := (Decimal.round_eq_ok_iff hlow hhigh).1 h
  have hquotient := Decimal.exactQuotient_one v scale
  refine ⟨Decimal.exactQuotient v .one scale, ?_, ?_⟩
  · have hone : Decimal.one.isZero = false := by decide
    refine Decimal.divide_of_fits hone ?_
    rw [hquotient]
    exact hfits
  · rw [hquotient]
    refine ⟨rfl, rfl, rfl, fun hcoeff ↦ ?_, fun hcoeff ↦ ⟨rfl, ?_⟩⟩
    · have hrest : (v.roundedAt (-scale)).isZero = false := by simpa [Decimal.isZero] using hcoeff
      rw [hrest, Bool.not_false, Bool.and_true]
      rfl
    · have hnone : (v.roundedAt (-scale)).isZero = true := by simpa [Decimal.isZero] using hcoeff
      rw [hnone, Bool.not_true, Bool.and_false]

/-- The finest unit within the limits. -/
example : -Decimal.tinyExponent = 1999999999999999997 := by decide

/-- Minus 0.004 at the scale two is a zero, which is negative only if it was rounded to. -/
theorem BinaryOp.divide_one_of_round_zero :
    ∃ u, BinaryOp.divide.apply ⟨true, 4, -3⟩ .one (.int 2) = .ok u ∧ u.negative = false := by
  have hround : UnaryOp.round.apply ⟨true, 4, -3⟩ (.int 2) = .ok ⟨true, 0, -2⟩ := by decide
  obtain ⟨u, hok, -, -, -, -, hsign⟩ :=
    BinaryOp.divide_one_of_round (by decide) (by decide) hround
  exact ⟨u, hok, (hsign rfl).2⟩

end ChainedDecimal
