import ChainedDecimal.Argument
import ChainedDecimal.Decimal.Extended

/-!
# What the operators do

An operator is applied to decimals and to the scale that the caller gave, whatever that is. Only
division and rounding look at the scale; they check it before anything else, so that an unusable
scale is reported even for a division by zero.

Calculations apply operators to finite decimals, by `apply`. The same operators extend to all
numerals, by `extend`, which is `apply` on finite ones.
-/

namespace ChainedDecimal

/-- Joins two operands. -/
def BinaryOp.apply (op : BinaryOp) (left right : Decimal) (scale : Argument) :
    Except Fault Decimal :=
  match op with
  | .add => left.add right
  | .subtract => left.subtract right
  | .multiply => left.multiply right
  | .divide => scale.toScale.bind fun s ↦ left.divide right s

/-- Changes one value. -/
def UnaryOp.apply (op : UnaryOp) (value : Decimal) (scale : Argument) : Except Fault Decimal :=
  match op with
  | .negate => value.negate
  | .absolute => value.absolute
  | .round => scale.toScale.bind fun s ↦ value.round s

/-- Joins two numerals. -/
def BinaryOp.extend (op : BinaryOp) (left right : Numeral) (scale : Argument) :
    Except Fault Numeral :=
  match op with
  | .add => left.add right
  | .subtract => left.subtract right
  | .multiply => left.multiply right
  | .divide => scale.toScale.bind fun s ↦ left.divide right s

/-- Changes one numeral. -/
def UnaryOp.extend (op : UnaryOp) (value : Numeral) (scale : Argument) : Except Fault Numeral :=
  match op with
  | .negate => value.negate
  | .absolute => value.absolute
  | .round => scale.toScale.bind fun s ↦ value.round s

@[simp] theorem BinaryOp.extend_finite (op : BinaryOp) (left right : Decimal) (scale : Argument) :
    op.extend (.finite left) (.finite right) scale =
      (op.apply left right scale).map .finite := by
  cases op
  case divide => simp only [extend, apply]; cases scale.toScale <;> rfl
  all_goals rfl

@[simp] theorem UnaryOp.extend_finite (op : UnaryOp) (value : Decimal) (scale : Argument) :
    op.extend (.finite value) scale = (op.apply value scale).map .finite := by
  cases op
  case round => simp only [extend, apply]; cases scale.toScale <;> rfl
  all_goals rfl

namespace Operator

/-- Joins two numerals by any operator; only the binary ones can. -/
def combine (op : Operator) (left right : Numeral) (scale : Argument) : Except Fault Numeral :=
  match op with
  | .binary op => op.extend left right scale
  | op => .error (.notBinary op)

/-- Changes one numeral by any operator; only the unary ones can. -/
def transform (op : Operator) (value : Numeral) (scale : Argument) : Except Fault Numeral :=
  match op with
  | .unary op => op.extend value scale
  | op => .error (.notUnary op)

end Operator

end ChainedDecimal
