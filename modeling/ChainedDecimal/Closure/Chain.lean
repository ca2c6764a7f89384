import ChainedDecimal.Closure.Script

/-!
# Chains with callables

A chain of this kind is a value that is joined with operands one after the other, where an operand
may be a callable that builds a group. A chain is never changed: each operator gives a new one. So
every parenthesis is closed as soon as it is opened, and there is no way to leave one open.

A traced chain carries its formula along with its value. Whether it is traced is decided when it is
begun, and all that comes from it is traced or not accordingly, the groups of its callables
included.

## Values

A chain that is begun has a finite decimal for its value, and so has every chain that comes from it,
for operands have to be finite. A chain may also be put together from a value and a formula, and
then nothing is asked of the value; so it is a numeral.
-/

namespace ChainedDecimal

namespace Closure

/-- A calculation whose groups are built by callables. -/
structure Chain where
  value : Numeral
  /-- The formula, if the chain is traced. -/
  formula : Option String
deriving DecidableEq

/-- An operand of a chain or a group. -/
inductive Operand where
  | plain (x : Argument)
  | script (s : Script)
deriving DecidableEq

namespace Chain

/-- Begins a chain; without a first value it begins with zero. -/
def begin (initial : Argument) (traced : Bool) : Except Fault Chain :=
  initial.toDecimal?.map fun value? ↦
    let value := value?.getD .zero
    ⟨.finite value, if traced then some value.text else none⟩

/-- Whether the chain is traced. -/
def isTraced (c : Chain) : Bool := c.formula.isSome

/-- Joins the value with a plain operand. -/
def binary (c : Chain) (op : BinaryOp) (operand scale : Argument) : Except Fault Chain := do
  let x ← operand.toDecimal
  let w ← op.extend c.value (.finite x) scale
  return ⟨w, c.formula.map fun s ↦ s ++ op.stepText (.decimal x) scale⟩

/-- Joins the value with what was read of a group. -/
def absorb (c : Chain) (op : BinaryOp) (r : Reading) (scale : Argument) : Except Fault Chain := do
  let w ← op.extend c.value (.finite r.value) scale
  return ⟨w, c.formula.map fun s ↦ s ++ (Operator.binary op).groupText (r.formula.getD "") scale⟩

/-- Joins the value with the group that a callable builds; the notes are those of its steps. -/
def nest (c : Chain) (op : BinaryOp) (s : Script) (scale : Argument) :
    Except Fault Chain × List Note :=
  let built := s.evaluate c.isTraced []
  (built.outcome.bind fun r ↦ c.absorb op r scale, built.notes)

/-- Changes the value. -/
def unary (c : Chain) (op : UnaryOp) (scale : Argument) : Except Fault Chain := do
  let w ← op.extend c.value scale
  return ⟨w, c.formula.map fun s ↦ op.stepText s scale⟩

/-- Joins the value with an operand of either kind. -/
def join (c : Chain) (op : BinaryOp) (operand : Operand) (scale : Argument) :
    Except Fault Chain × List Note :=
  match operand with
  | .plain x => (c.binary op x scale, [])
  | .script s => c.nest op s scale

end Chain

/-- Joins a group that stands alone with an operand of either kind. -/
def Group.join (g : Group) (op : BinaryOp) (operand : Operand) (scale : Argument) : Run Unit :=
  match operand with
  | .plain x => (Act.binary op x scale).perform 0 [g]
  | .script s => s.applyTo g op scale

end Closure

end ChainedDecimal
