/-!
# Operators

A calculation is a chain of operators. Two operands are joined by a binary operator, one value is
changed by a unary operator, and a group of steps may also stand for itself, under the plain
operator. The three kinds are types of their own, so that a function which can only join does not
have to say what it would do with a rounding; where any operator may be named, the three are put
together in `Operator`.

Division and rounding give a result with a stated number of digits after the point, the scale. The
other operators are exact and take no scale.
-/

namespace ChainedDecimal

/-- The operators that join two operands. -/
inductive BinaryOp where
  | add
  | subtract
  | multiply
  /-- The quotient, rounded to a scale. -/
  | divide
deriving DecidableEq

/-- The operators that change one value. -/
inductive UnaryOp where
  | negate
  | absolute
  | round
deriving DecidableEq

/-- What a group of steps may be opened under. -/
inductive Operator where
  | plain
  | binary (op : BinaryOp)
  | unary (op : UnaryOp)
deriving DecidableEq

/-! ## Names -/

/-- The name of a binary operator. -/
def BinaryOp.name : BinaryOp → String
  | .add => "add"
  | .subtract => "subtract"
  | .multiply => "multiply"
  | .divide => "divide"

/-- The name of a unary operator. -/
def UnaryOp.name : UnaryOp → String
  | .negate => "negate"
  | .absolute => "abs"
  | .round => "round"

namespace Operator

/-- The name of an operator; the plain one is called `none`. -/
def name : Operator → String
  | .plain => "none"
  | .binary op => op.name
  | .unary op => op.name

/-- The name in capitals, as messages about the operator itself show it. -/
def capitals (op : Operator) : String := op.name.map Char.toUpper

/-- Every operator, once. -/
def all : List Operator :=
  [.plain, .binary .add, .binary .subtract, .binary .multiply, .binary .divide, .unary .round,
    .unary .negate, .unary .absolute]

/-- The operator of a name. -/
def ofName? (s : String) : Option Operator := all.find? fun op ↦ op.name == s

end Operator

/-! ## Scales -/

/-- Whether a binary operator takes a scale. -/
def BinaryOp.needsScale (op : BinaryOp) : Bool := op == .divide

/-- Whether a unary operator takes a scale. -/
def UnaryOp.needsScale (op : UnaryOp) : Bool := op == .round

/-- Whether an operator takes a scale. -/
def Operator.needsScale : Operator → Bool
  | .plain => false
  | .binary op => op.needsScale
  | .unary op => op.needsScale

end ChainedDecimal
