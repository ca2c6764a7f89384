import ChainedDecimal.Formula.Text

/-!
# Formula traces

A trace records the formula of a calculation while it is carried out. It never influences a result.

## Representation

The text is kept in parts, one for each step so far. A scope that is opened later than the
calculation began owns the parts behind its opening text, so the number of parts at that moment, the
mark, is where its own text starts. A unary step of the scope joins the parts from there on and puts
the wrapped text in their place: parts before the mark are never touched, and marks of enclosing
scopes stay valid.
-/

namespace ChainedDecimal

/-- The recorded text of a calculation. -/
structure Trace where
  /-- The parts of the text, in the order in which they stand. -/
  parts : List String
deriving DecidableEq, Inhabited

namespace Trace

/-- A trace in which nothing is recorded. -/
def empty : Trace := ⟨[]⟩

/-- The whole text. -/
def render (t : Trace) : String := String.join t.parts

/-- The number of parts, which is where text that comes next will start. -/
def mark (t : Trace) : Nat := t.parts.length

/-- Appends a part. -/
def push (t : Trace) (s : String) : Trace := ⟨t.parts ++ [s]⟩

/-- Appends an operand that no operator joins to anything. -/
def operand (t : Trace) (a : Argument) : Trace := t.push a.shown

/-- The trace of a calculation that starts with an operand, or with nothing. -/
def starting : Argument → Trace
  | .absent => empty
  | a => empty.operand a

/-- The trace of a calculation that may start with a value. -/
def ofValue? : Option Decimal → Trace
  | none => empty
  | some d => empty.operand (.decimal d)

/-- Appends a binary step. -/
def binary (t : Trace) (op : BinaryOp) (operand scale : Argument) : Trace :=
  t.push (op.stepText operand scale)

/-- Wraps the text from a mark on in a unary step. -/
def unary (t : Trace) (op : UnaryOp) (scale : Argument) (start : Nat) : Trace :=
  ⟨t.parts.take start ++ [op.stepText (String.join (t.parts.drop start)) scale]⟩

/-- Appends the text that opens a group. -/
def openGroup (t : Trace) (op : Operator) : Trace := t.push op.openText

/-- Appends the text that closes a group. -/
def closeGroup (t : Trace) (op : Operator) (scale : Argument) : Trace := t.push (op.closeText scale)

/-- Appends a group whose formula is complete. -/
def group (t : Trace) (op : Operator) (formula : String) (scale : Argument) : Trace :=
  t.push (op.groupText formula scale)

/-- The mark that a position means: a negative one counts from the end, and one beyond either end
means that end. -/
def markOf (t : Trace) (position : Int) : Nat :=
  if position < 0 then (t.mark + position).toNat else min position.toNat t.mark

@[simp] theorem parts_push (t : Trace) (s : String) : (t.push s).parts = t.parts ++ [s] := rfl

@[simp] theorem mark_push (t : Trace) (s : String) : (t.push s).mark = t.mark + 1 := by
  simp [mark]

/-- A unary step leaves one part behind the mark that it starts from. -/
theorem mark_unary (t : Trace) (op : UnaryOp) (scale : Argument) {start : Nat}
    (h : start ≤ t.mark) :
    (t.unary op scale start).mark = start + 1 := by
  simp [mark, unary] at h ⊢
  omega

end Trace

end ChainedDecimal
