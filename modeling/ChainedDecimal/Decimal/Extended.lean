import ChainedDecimal.Decimal.Arithmetic

/-!
# Arithmetic with infinities and "not a number"

Every operation on finite decimals extends to all numerals, and on finite decimals the extension is
the operation itself.

## Not a number

An operation with a signaling "not a number" among its operands is invalid. A quiet one is handed
on, sign and payload included, the left one if both operands are. Divisions are the exception: they
are carried out on quotients of integers, and neither a "not a number" nor an infinity is one.

## Infinities

An infinity absorbs every finite operand of a sum, and the sign of a product with it is decided as
always. There is no sum of two infinities with different signs, no product of an infinity and a
zero, and no infinity with a last digit to round to.
-/

namespace ChainedDecimal

/-- The opposite of an infinity. The sign of a "not a number" means nothing and is left alone. -/
def NonFinite.opposite (x : NonFinite) : NonFinite :=
  match x.kind with
  | .infinity => { x with negative := !x.negative }
  | _ => x

/-- Why a numeral without a finite value cannot stand in a division. -/
def NonFinite.quotientFault (x : NonFinite) : Fault :=
  match x.kind with
  | .infinity => .infinityInQuotient
  | _ => .nanInQuotient

namespace Numeral

/-! ## Views -/

/-- The sign as it is written. -/
def negative : Numeral → Bool
  | .finite d => d.negative
  | .special x => x.negative

/-- Whether the numeral is a zero. -/
def isZero : Numeral → Bool
  | .finite d => d.isZero
  | .special _ => false

/-- Whether the numeral is an infinity. -/
def isInfinite : Numeral → Bool
  | .special ⟨_, .infinity⟩ => true
  | _ => false

/-- Whether the numeral is a quiet "not a number". -/
def isQuietNan : Numeral → Bool
  | .special ⟨_, .quietNan _⟩ => true
  | _ => false

/-- Whether the numeral is a signaling "not a number". -/
def isSignalingNan : Numeral → Bool
  | .special ⟨_, .signalingNan _⟩ => true
  | _ => false

/-! ## What is handed on -/

/-- The outcome for one operand if that is not a number, and else the given one. -/
def handingOn (a : Numeral) (outcome : Except Fault Numeral) : Except Fault Numeral :=
  if a.isSignalingNan then .error .invalidOperation
  else if a.isQuietNan then .ok a
  else outcome

/-- The outcome for two operands if one of them is not a number, and else the given one. -/
def handingOnEither (a b : Numeral) (outcome : Except Fault Numeral) : Except Fault Numeral :=
  if a.isSignalingNan || b.isSignalingNan then .error .invalidOperation
  else a.handingOn (b.handingOn outcome)

/-! ## Operations -/

/-- The sum of numerals of which at least one is not finite. -/
def addNonFinite (a b : Numeral) : Except Fault Numeral :=
  handingOnEither a b <|
    if a.isInfinite && b.isInfinite && a.negative != b.negative then .error .invalidOperation
    else .ok (if a.isInfinite then a else b)

/-- The sum. -/
def add : Numeral → Numeral → Except Fault Numeral
  | .finite a, .finite b => (a.add b).map .finite
  | a, b => addNonFinite a b

/-- The difference. -/
def subtract : Numeral → Numeral → Except Fault Numeral
  | .finite a, .finite b => (a.subtract b).map .finite
  | a, .special b => addNonFinite a (.special b.opposite)
  | a, b => addNonFinite a b

/-- The product. -/
def multiply : Numeral → Numeral → Except Fault Numeral
  | .finite a, .finite b => (a.multiply b).map .finite
  | a, b =>
    handingOnEither a b <|
      if a.isZero || b.isZero then .error .invalidOperation
      else .ok (.special ⟨a.negative != b.negative, .infinity⟩)

/-- The value with the other sign. -/
def negate : Numeral → Except Fault Numeral
  | .finite d => d.negate.map .finite
  | .special x => handingOn (.special x) (.ok (.special x.opposite))

/-- The value without its sign. -/
def absolute : Numeral → Except Fault Numeral
  | .finite d => d.absolute.map .finite
  | .special x => handingOn (.special x) (.ok (.special ⟨false, x.kind⟩))

/-- The quotient, rounded to a scale. A division by zero is reported before anything else. -/
def divide (a b : Numeral) (scale : Int) : Except Fault Numeral :=
  match a, b with
  | .finite a, .finite b => (a.divide b scale).map .finite
  | .special x, .finite b =>
    if b.isZero then .error (.divisionByZero (.special x) b) else .error x.quotientFault
  | .special x, .special _ => .error x.quotientFault
  | .finite _, .special y => .error y.quotientFault

/-- The value rounded to a scale, whose unit must exist whatever is rounded. -/
def round (a : Numeral) (scale : Int) : Except Fault Numeral :=
  match a with
  | .finite d => (d.round scale).map .finite
  | .special x =>
    (Decimal.placed false 1 (-scale)).bind fun _ ↦
      handingOn (.special x) (.error .invalidOperation)

/-! ## Equality as numbers -/

/-- Whether two numerals are the same number. A quiet "not a number" is the same as nothing, not
even as itself, and a signaling one cannot be compared. -/
def sameValue (a b : Numeral) : Except Fault Bool :=
  match a, b with
  | .finite a, .finite b => .ok (a.sameValue b)
  | a, b =>
    if a.isSignalingNan || b.isSignalingNan then .error .invalidOperation
    else .ok (a.isInfinite && b.isInfinite && a.negative == b.negative)

end Numeral

end ChainedDecimal
