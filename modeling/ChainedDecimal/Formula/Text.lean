import ChainedDecimal.Operator.Apply

/-!
# The text of a step

A formula shows a calculation as it was written, left to right. Each step has a text of its own:

* a binary step is appended, ` + 3`, and a division shows its scale behind the operand,
  ` / 3[scale=2]`;
* a unary step wraps what stands there already, `-(..)`, `abs(..)`, `round(.., 2)`;
* a group is appended between an opening and a closing text, which depend on the operator that the
  group is opened under: ` + (..)`, ` / (..)[scale=2]`, `round(.., 2)`.

Operands and scales are shown as the caller's arguments, so that a text can be asked for whatever
was handed over.
-/

namespace ChainedDecimal

/-- The sign of a binary operator. -/
def BinaryOp.symbol : BinaryOp → String
  | .add => "+"
  | .subtract => "-"
  | .multiply => "*"
  | .divide => "/"

/-- The note of a scale behind a division. -/
def scaleNote (scale : Argument) : String := "[scale=" ++ scale.shown ++ "]"

/-- The text of a binary step. -/
def BinaryOp.stepText (op : BinaryOp) (operand scale : Argument) : String :=
  " " ++ op.symbol ++ " " ++ operand.shown ++ if op.needsScale then scaleNote scale else ""

/-- The text of a unary step around the text that it applies to. -/
def UnaryOp.stepText (op : UnaryOp) (formula : String) (scale : Argument) : String :=
  match op with
  | .negate => "-(" ++ formula ++ ")"
  | .absolute => "abs(" ++ formula ++ ")"
  | .round => "round(" ++ formula ++ ", " ++ scale.shown ++ ")"

namespace Operator

/-- The text that opens a group. -/
def openText : Operator → String
  | .plain => "("
  | .binary op => " " ++ op.symbol ++ " ("
  | .unary .negate => "-("
  | .unary .absolute => "abs("
  | .unary .round => "round("

/-- The text that closes a group. -/
def closeText (op : Operator) (scale : Argument) : String :=
  match op with
  | .binary .divide => ")" ++ scaleNote scale
  | .unary .round => ", " ++ scale.shown ++ ")"
  | _ => ")"

/-- The text of a whole group. -/
def groupText (op : Operator) (formula : String) (scale : Argument) : String :=
  op.openText ++ formula ++ op.closeText scale

/-- The text of a binary step for any operator; only the binary ones have one. -/
def binaryText (op : Operator) (operand scale : Argument) : Except Fault String :=
  match op with
  | .binary op => .ok (op.stepText operand scale)
  | op => .error (.noBinaryText op)

/-- The text of a unary step for any operator; only the unary ones have one. -/
def unaryText (op : Operator) (formula : String) (scale : Argument) : Except Fault String :=
  match op with
  | .unary op => .ok (op.stepText formula scale)
  | op => .error (.notUnary op)

end Operator

end ChainedDecimal
