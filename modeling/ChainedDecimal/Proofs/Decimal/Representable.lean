import ChainedDecimal.Proofs.Decimal.Fitting
import ChainedDecimal.Proofs.Decimal.Order

/-!
# Decimals that can be represented

A decimal can be represented if its places exist: its last digit does not stand below the lowest
place, nor its leading digit above the highest one. A zero has no leading digit, and of it only the
exponent is looked at. How many digits there are does not matter, so that this asks for less than
`Fits` does.

Whatever an operator gives fits, and so can be represented, whatever it was given.
-/

namespace ChainedDecimal

namespace Decimal

variable {a b d : Decimal}

/-- The places of the decimal exist. -/
def Representable (d : Decimal) : Prop :=
  tinyExponent ≤ d.exp ∧ (if d.isZero then d.exp else d.adjusted) ≤ maxExponent

instance (d : Decimal) : Decidable d.Representable := inferInstanceAs (Decidable (_ ∧ _))

/-- The only digit of a zero stands at its exponent. -/
theorem representable_iff : d.Representable ↔ tinyExponent ≤ d.exp ∧ d.adjusted ≤ maxExponent := by
  unfold Representable
  split
  · rename_i hzero
    have hdigits := digits_of_isZero hzero
    have hplace : d.adjusted = d.exp := by
      unfold adjusted
      omega
    rw [hplace]
  · rfl

theorem Fits.representable (h : d.Fits) : d.Representable := representable_iff.2 h.2

theorem SameNumber.adjusted_eq (h : SameNumber a b) (ha : a.isZero = false) :
    a.adjusted = b.adjusted := by
  have hb : b.isZero = false := h.isZero_eq ▸ ha
  rw [← log_abs_toRat (by simpa [isZero] using ha), ← log_abs_toRat (by simpa [isZero] using hb), h]

/-- Another representation of the same number can be represented too if its exponent exists. -/
theorem SameNumber.representable (h : SameNumber a b) (ha : a.Representable)
    (hlow : tinyExponent ≤ b.exp) (hhigh : b.isZero = true → b.exp ≤ maxExponent) :
    b.Representable := by
  refine ⟨hlow, ?_⟩
  cases hzero : b.isZero with
  | true =>
    rw [if_pos rfl]
    exact hhigh hzero
  | false =>
    have ha' : a.isZero = false := h.isZero_eq.trans hzero
    rw [if_neg (by decide), ← h.adjusted_eq ha']
    exact (representable_iff.1 ha).2

end Decimal

/-! ## Operators -/

namespace Operator

variable {op : Operator} {scale : Argument} {w : Numeral}

/-- What an operator gives for two finite numerals is finite and fits. -/
theorem exists_of_combine {a b : Decimal}
    (h : op.combine (.finite a) (.finite b) scale = .ok w) : ∃ d, w = .finite d ∧ d.Fits := by
  cases op with
  | plain | unary op => cases h
  | binary op =>
    rw [combine, BinaryOp.extend_finite] at h
    obtain ⟨d, hd, rfl⟩ := Fault.map_eq_ok.1 h
    exact ⟨d, rfl, BinaryOp.fits_of_apply hd⟩

theorem exists_of_transform {a : Decimal} (h : op.transform (.finite a) scale = .ok w) :
    ∃ d, w = .finite d ∧ d.Fits := by
  cases op with
  | plain | binary op => cases h
  | unary op =>
    rw [transform, UnaryOp.extend_finite] at h
    obtain ⟨d, hd, rfl⟩ := Fault.map_eq_ok.1 h
    exact ⟨d, rfl, UnaryOp.fits_of_apply hd⟩

end Operator

end ChainedDecimal
