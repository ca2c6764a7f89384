import ChainedDecimal.Formula.Trace

/-!
# Groups

A group is the accumulator of one parenthesized part of a calculation. It begins without a value.
Plain operators need one, which `begin` sets; beginning again starts the group over. An operator
whose operand is itself a group may come first, and then the group's value is the operator's seed,
the number that changes nothing: zero for sums and differences, one for products and quotients.

A group that is traced records its own formula. Beginning replaces the formula, and a unary operator
wraps all of it. A seed is recorded as soon as it is needed, before the operator is carried out, so
it stays in the formula of a group for which the operator then fails; everything else that fails
leaves the group as it was.
-/

namespace ChainedDecimal

/-- The number that a binary operator starts from when there is no left operand. -/
def BinaryOp.seed : BinaryOp → Decimal
  | .add | .subtract => .zero
  | .multiply | .divide => .one

namespace Closure

/-- The accumulator of a parenthesized part of a calculation. -/
structure Group where
  /-- The value so far, if there is one. -/
  value : Option Decimal
  /-- The formula, if the group is traced. -/
  trace : Option Trace
deriving DecidableEq

/-- What an operator takes from a group that is its operand. -/
structure Reading where
  /-- The group's value. -/
  value : Decimal
  /-- The group's formula, if the group was traced. -/
  formula : Option String
deriving DecidableEq

namespace Group

/-- A group without a value. -/
def fresh (traced : Bool) : Group := ⟨none, if traced then some .empty else none⟩

/-- The formula, if the group is traced. -/
def formula? (g : Group) : Option String := g.trace.map Trace.render

/-- Whether the group is traced. -/
def isTraced (g : Group) : Bool := g.trace.isSome

/-- Sets the first value of the group. -/
def begin (g : Group) (initial : Argument) : Except Fault Group := do
  let v ← initial.toDecimal
  return ⟨some v, g.trace.map fun _ ↦ .ofValue? (some v)⟩

/-- Joins the value with an operand. The value is asked for before the operand is looked at. -/
def binary (g : Group) (op : BinaryOp) (operand scale : Argument) : Except Fault Group := do
  let v ← Fault.require (.groupWithoutValue (.binary op)) g.value
  let x ← operand.toDecimal
  let w ← op.apply v x scale
  return ⟨some w, g.trace.map fun t ↦ t.binary op (.decimal x) scale⟩

/-- Changes the value. -/
def unary (g : Group) (op : UnaryOp) (scale : Argument) : Except Fault Group := do
  let v ← Fault.require (.groupWithoutValue (.unary op)) g.value
  let w ← op.apply v scale
  return ⟨some w, g.trace.map fun t ↦ t.unary op scale 0⟩

/-- The left operand of an operator on a group: the group's value, or else the seed. -/
def leftOperand (g : Group) (op : BinaryOp) : Decimal := g.value.getD op.seed

/-- The group in whose formula the left operand stands, recorded now if it is the seed. -/
def seeded (g : Group) (op : BinaryOp) : Group :=
  match g.value with
  | some _ => g
  | none => { g with trace := g.trace.map fun t ↦ t.operand (.decimal op.seed) }

/-- Joins the left operand with the reading of another group. The group is the one afterwards, also
if the operator fails. -/
def absorb (g : Group) (op : BinaryOp) (r : Reading) (scale : Argument) :
    Except Fault Unit × Group :=
  match op.apply (g.leftOperand op) r.value scale with
  | .error f => (.error f, g.seeded op)
  | .ok w =>
    (.ok (), ⟨some w, (g.seeded op).trace.map fun t ↦
      t.group (.binary op) (r.formula.getD "") scale⟩)

/-- What an operator takes from the group; it must have a value. -/
def reading (g : Group) : Except Fault Reading := do
  let v ← Fault.require .groupLeftEmpty g.value
  return ⟨v, g.formula?⟩

/-- A group as shown to a reader. -/
def shown (g : Group) : String := "Group(value=" ++ (g.value.map Decimal.text).getD "None" ++ ")"

end Group

end Closure

end ChainedDecimal
