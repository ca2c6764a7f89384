import ChainedDecimal.Decimal.Limits

/-!
# Arithmetic

Addition, subtraction, multiplication, negation and absolute value are exact: each forms the
representation that the result has without any limits, and settles it. Division and rounding are to
a scale, the number of digits after the point; a negative scale rounds to tens, hundreds and so on.
A half goes away from zero in both.

## Signs of zeros

A sum that is exactly zero is negative only if both operands are, and the sign of a product is
decided by the signs of its factors even if it is zero. Negation and absolute value never give a
negative zero, and neither does division, whose quotient is rounded as an integer; rounding keeps
the sign of its operand even if nothing else is left.

## Scales

Division goes through the ratios of integers that its operands are, so that nothing is rounded but
the quotient itself.

Rounding to a scale goes through the unit of that scale, `10 ^ (-scale)`, which is itself a decimal
within the limits: it may overflow, and below the lowest place it vanishes into a zero at that
place, whose exponent is then the one rounded to.
-/

namespace ChainedDecimal

namespace Decimal

/-! ## Exact operations -/

/-- The sum without limits, at the lower of the two exponents. -/
def exactSum (a b : Decimal) : Decimal :=
  let e := min a.exp b.exp
  let n := a.signedAt e + b.signedAt e
  ⟨if n = 0 then a.negative && b.negative else decide (n < 0), n.natAbs, e⟩

/-- The representation with the other sign, also of a zero. -/
def flip (d : Decimal) : Decimal := { d with negative := !d.negative }

/-- The product without limits. -/
def exactProduct (a b : Decimal) : Decimal :=
  ⟨a.negative != b.negative, a.coeff * b.coeff, a.exp + b.exp⟩

/-- The sum. -/
def add (a b : Decimal) : Except Fault Decimal := (exactSum a b).settle

/-- The difference. -/
def subtract (a b : Decimal) : Except Fault Decimal := (exactSum a b.flip).settle

/-- The product. -/
def multiply (a b : Decimal) : Except Fault Decimal := (exactProduct a b).settle

/-- The value with the other sign; a zero becomes positive. -/
def negate (d : Decimal) : Except Fault Decimal :=
  settle { d with negative := !d.negative && !d.isZero }

/-- The value without its sign. -/
def absolute (d : Decimal) : Except Fault Decimal := settle { d with negative := false }

/-! ## Operations to a scale -/

/-- The decimal of a sign, a coefficient and an exponent, if the exponent may be asked for. -/
def placed (negative : Bool) (coeff : Nat) (exp : Int) : Except Fault Decimal :=
  if maxShift < exp.natAbs then .error .invalidOperation else settle ⟨negative, coeff, exp⟩

/-- The coefficient with its sign. -/
def signedCoeff (d : Decimal) : Int := if d.negative then -d.coeff else d.coeff

/-- The number as a ratio of integers, in lowest terms and with a positive denominator. -/
def integerRatio (d : Decimal) : Int × Nat :=
  if d.isZero then (0, 1)
  else if 0 ≤ d.exp then (d.signedCoeff * (Nat.pow 10 d.exp.toNat : Nat), 1)
  else
    let power := Nat.pow 10 (-d.exp).toNat
    let common := Nat.gcd d.coeff power
    (d.signedCoeff / common, power / common)

/-- The ratio of two decimals in units of a scale, not reduced. The power of ten stands in the
numerator, or for a negative scale in the denominator. -/
def scaledRatio (a b : Decimal) (scale : Int) : Int × Int :=
  let numerator := a.integerRatio.1 * b.integerRatio.2
  let denominator := a.integerRatio.2 * b.integerRatio.1
  if 0 ≤ scale then (numerator * (Nat.pow 10 scale.toNat : Nat), denominator)
  else (numerator, denominator * (Nat.pow 10 (-scale).toNat : Nat))

/-- A ratio rounded to an integer. The absolute values are divided, a remainder of a half or more
counts as one more, and the sign is put to the outcome. -/
def roundedRatio (numerator denominator : Int) : Int :=
  let quotient := numerator.natAbs / denominator.natAbs
  let remainder := numerator.natAbs % denominator.natAbs
  let rounded := if denominator.natAbs ≤ 2 * remainder then quotient + 1 else quotient
  if decide (numerator < 0) != decide (denominator < 0) then -rounded else rounded

/-- The quotient, rounded to a scale. -/
def divide (a b : Decimal) (scale : Int) : Except Fault Decimal :=
  if b.isZero then .error (.divisionByZero (.finite a) b)
  else
    let ratio := scaledRatio a b scale
    let quotient := ofInt (roundedRatio ratio.1 ratio.2)
    placed quotient.negative quotient.coeff (-scale)

/-- The coefficient that a nonzero decimal has after rounding to an exponent. -/
def coeffRoundedAt (d : Decimal) (e : Int) : Nat :=
  if e ≤ d.exp then d.coeff * Nat.pow 10 (d.exp - e).toNat
  else dropDigits d.coeff (e - d.exp).toNat

/-- Rounds to an exponent, padding with zeros where the decimal ends above it. The exponent must be
one that the limits allow, and the result must not need more digits than there are. -/
def quantize (d : Decimal) (e : Int) : Except Fault Decimal :=
  if maxExponent < e ∨ e < tinyExponent then .error .invalidOperation
  else if d.isZero then settle ⟨d.negative, 0, e⟩
  else if precision < d.digits + (d.exp - e) then .error .invalidOperation
  else
    let rounded : Decimal := ⟨d.negative, d.coeffRoundedAt e, e⟩
    if precision < rounded.digits ∨ maxExponent < rounded.adjusted then .error .invalidOperation
    else settle rounded

/-- Rounds to a scale, keeping the sign. -/
def round (d : Decimal) (scale : Int) : Except Fault Decimal :=
  match placed false 1 (-scale) with
  | .error f => .error f
  | .ok unit => d.quantize unit.exp

/-! ## The reduced form -/

/-- Settles a decimal and drops its trailing zeros. -/
def normalize (d : Decimal) : Except Fault Decimal := d.settle.map reduced

end Decimal

end ChainedDecimal
