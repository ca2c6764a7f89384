import ChainedDecimal.Fault

/-!
# The limits of the decimals

Results are exact, within limits so wide that no ordinary calculation meets them: a coefficient has
at most `precision` digits and the leading digit stands at a place between `minExponent` and
`maxExponent`. Below `minExponent` there is a further range in which digits are given up one by one,
down to the place `tinyExponent`.

## Settling

An operation forms its exact result first and then settles it. What fits is left as it is. A leading
digit above `maxExponent` is an overflow, except that a zero has no leading digit and gets the
largest exponent instead. A result below the place `tinyExponent` is rounded to that place,
silently, and so is one with too many digits to the digits there are; a half goes away from zero.
Rounding can carry into a new digit, and in the last case this may be the step that overflows.
-/

namespace ChainedDecimal

namespace Decimal

/-- The highest place at which a leading digit may stand. -/
def maxExponent : Int := 999999999999999999

/-- The lowest place of a leading digit at which all digits are kept. -/
def minExponent : Int := -maxExponent

/-- The largest number of digits of a coefficient. -/
def precision : Nat := 999999999999999999

/-- The lowest place of a last digit. -/
def tinyExponent : Int := minExponent - (precision - 1)

/-- The largest change of an exponent that may be asked for. -/
def maxShift : Nat := 2 * (maxExponent.natAbs + precision)

/-- Rounds to the digits there are. The carry into a new digit leaves a power of ten, of which the
last zero is dropped. -/
def fitPrecision (d : Decimal) : Except Fault Decimal :=
  let excess := d.digits - precision
  let kept := dropDigits d.coeff excess
  let fitted : Decimal :=
    if digitCount kept > precision then ⟨d.negative, kept / 10, d.exp + excess + 1⟩
    else ⟨d.negative, kept, d.exp + excess⟩
  if maxExponent < fitted.adjusted then .error .overflow else .ok fitted

/-- Rounds to the lowest place there is. -/
def fitTiny (d : Decimal) : Decimal :=
  if d.exp < tinyExponent then
    ⟨d.negative, dropDigits d.coeff (tinyExponent - d.exp).toNat, tinyExponent⟩
  else d

/-- Brings an exact result within the limits. -/
def settle (d : Decimal) : Except Fault Decimal :=
  if maxExponent < d.adjusted then
    if d.isZero then .ok { d with exp := maxExponent } else .error .overflow
  else if d.adjusted < minExponent then .ok d.fitTiny
  else if precision < d.digits then d.fitPrecision
  else .ok d

/-- Whether a representation is within the limits: its digits can be kept, and its places exist. -/
def Fits (d : Decimal) : Prop :=
  d.digits ≤ precision ∧ tinyExponent ≤ d.exp ∧ d.adjusted ≤ maxExponent

instance (d : Decimal) : Decidable d.Fits := inferInstanceAs (Decidable (_ ∧ _ ∧ _))

/-- What fits is settled already. -/
theorem settle_of_fits {d : Decimal} (h : d.Fits) : d.settle = .ok d := by
  obtain ⟨hdigits, htiny, hmax⟩ := h
  unfold settle fitTiny
  rw [if_neg (by omega), if_neg (show ¬d.exp < tinyExponent by omega),
    if_neg (show ¬precision < d.digits by omega), ite_self]

end Decimal

end ChainedDecimal
