import ChainedDecimal.Operator.Apply
import ChainedDecimal.Settings

/-!
# The calculator

Single calculations that need no chain. The operands are made exact one after the other, from left
to right; sums and products of more than two operands take each further operand only once those
before it have been joined, so that of several unusable operands the leftmost is reported. A scale
is looked at last. Results pass through the installed pool.
-/

namespace ChainedDecimal

namespace Calculator

/-- What can be calculated. -/
inductive Call where
  | add (a b : Argument) (others : List Argument)
  | subtract (a b : Argument)
  | multiply (a b : Argument) (others : List Argument)
  /-- A quotient, rounded to a scale. -/
  | divide (a b scale : Argument)
  | negate (a : Argument)
  | absolute (a : Argument)
  | round (a scale : Argument)
deriving DecidableEq

/-- Joins two operands. -/
def join (op : BinaryOp) (a b scale : Argument) : Except Fault Decimal :=
  a.toDecimal.bind fun x ↦ b.toDecimal.bind fun y ↦ op.apply x y scale

/-- Joins a value with further operands, one after the other. -/
def joinAll (op : BinaryOp) (x : Decimal) : List Argument → Except Fault Decimal
  | [] => .ok x
  | b :: bs => (b.toDecimal.bind fun y ↦ op.apply x y .absent).bind fun z ↦ joinAll op z bs

/-- Changes one operand. -/
def change (op : UnaryOp) (a scale : Argument) : Except Fault Decimal :=
  a.toDecimal.bind fun x ↦ op.apply x scale

/-- The value of a calculation, before it passes through a pool. -/
def Call.value : Call → Except Fault Decimal
  | .add a b others => (join .add a b .absent).bind fun x ↦ joinAll .add x others
  | .subtract a b => join .subtract a b .absent
  | .multiply a b others => (join .multiply a b .absent).bind fun x ↦ joinAll .multiply x others
  | .divide a b scale => join .divide a b scale
  | .negate a => change .negate a .absent
  | .absolute a => change .absolute a .absent
  | .round a scale => change .round a scale

/-- Carries out a calculation: its value, passed through the installed pool. -/
def Call.run (c : Call) (s : Settings) : Except Fault (Decimal × Settings) := c.value.bind s.pooled

end Calculator

end ChainedDecimal
