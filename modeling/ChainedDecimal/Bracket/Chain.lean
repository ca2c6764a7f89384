import ChainedDecimal.Formula.Trace

/-!
# Bracketed chains

A bracketed chain is a calculation whose parentheses are opened and closed by calls of their own.
Opening one creates a scope nested in the one that it is called on, and closing one folds the value
of the nested scope into the enclosing scope, under the operator that it was opened with.

## Representation

At any time the open scopes form a path from the root to the exposed scope, the only one that has no
scope nested in it. A chain keeps the exposed scope and, innermost first, the enclosing ones, each
with the operator that waits for the scope nested in it. Closing a scope takes the innermost
enclosing scope off that list. So it cannot happen that a scope and the one nested in it disagree
about each other, and an operator is waiting exactly where a nested scope is open.

That is no account of how scopes are kept in memory, where each is a node of its own with fields for
its links, and calls write them one by one. Those nodes are in `Bracket.Node` and `Bracket.Action`,
and a memory of nodes that begins with nothing always holds chains as they are here.

A scope may be addressed after it was closed. Such a call always fails, and all that matters of a
closed scope is its number and the value that it had.

## Calls

A call is addressed to a scope by its number, counted from the root in order of creation. Only the
exposed scope can act, so that `act` needs no number and `call` adds no more than the refusal of the
other scopes. A call either succeeds as a whole, and gives the chain afterwards, or fails and leaves
the chain as it was. Of several reasons to fail the first one in this order is reported: the scope
is closed, a nested scope is open, an argument is unusable, a value is missing, the operator cannot
be carried out.
-/

namespace ChainedDecimal

namespace Bracket

/-- An open scope. -/
structure Scope where
  /-- The number of the scope in its chain; the root has `0`. -/
  id : Nat
  /-- The value so far, if there is one. -/
  value : Option Decimal
  /-- The mark at which the scope's own text starts in the trace. -/
  start : Nat
deriving DecidableEq

/-- A scope in which another one is open. -/
structure Waiting where
  /-- The enclosing scope. -/
  scope : Scope
  /-- The operator that the nested scope was opened under. -/
  pending : Operator
  /-- The scale that was given with it. -/
  scale : Option Int
deriving DecidableEq

/-- A calculation with parentheses. -/
structure Chain where
  /-- The open scope without an open scope in it. -/
  exposed : Scope
  /-- The open scopes around it, innermost first. -/
  enclosing : List Waiting
  /-- The scopes that were closed, in that order, as they were then. -/
  closed : List Scope
  /-- The formula, if the chain is traced. -/
  trace : Option Trace
deriving DecidableEq

/-- Where a scope of a chain is. -/
inductive Place where
  /-- It is open, and no scope is open in it. -/
  | exposed
  /-- It is open, and so is a scope in it. -/
  | covered
  /-- It was closed. -/
  | closed
deriving DecidableEq

/-- The calls that a scope understands. -/
inductive Call where
  /-- Joins the value with an operand. -/
  | binary (op : BinaryOp) (operand scale : Argument)
  /-- Changes the value. -/
  | unary (op : UnaryOp) (scale : Argument)
  /-- Opens a parenthesis. The operand is the first value of the nested scope and may be absent, and
  so may the scale. -/
  | openGroup (op : Operator) (operand scale : Argument)
  /-- Closes the parenthesis of the scope. -/
  | close
deriving DecidableEq

/-- The value that a scope gets when a group in it ends: the scale must be there if the operator
needs one, and the group must have a value. A binary operator joins the scope's value with that of
the group, where a scope without a value counts as zero; the others do not look at the scope's
value. -/
def foldGroup (op : Operator) (scale : Option Int) (outer inner : Option Decimal) :
    Except Fault Decimal :=
  if op.needsScale && scale.isNone then .error (.missingScale op)
  else
    match inner with
    | none => .error .closedWithoutValue
    | some v =>
      match op with
      | .plain => .ok v
      | .unary op => op.apply v (.ofInt? scale)
      | .binary op => op.apply (outer.getD .zero) v (.ofInt? scale)

namespace Chain

/-- Begins a chain, whose first value may be absent. -/
def begin (initial : Argument) (traced : Bool) : Except Fault Chain :=
  initial.toDecimal?.map fun value ↦
    { exposed := ⟨0, value, 0⟩
      enclosing := []
      closed := []
      trace := if traced then some (.ofValue? value) else none }

/-- The number of scopes there have been. -/
def size (c : Chain) : Nat := c.enclosing.length + 1 + c.closed.length

/-! ## Acting on the exposed scope -/

/-- The chain with another value in the exposed scope. -/
def withValue (c : Chain) (v : Decimal) : Chain :=
  { c with exposed := { c.exposed with value := some v } }

/-- The chain with a change to its trace, if it has one. -/
def recording (c : Chain) (change : Trace → Trace) : Chain := { c with trace := c.trace.map change }

/-- Joins the value with an operand. -/
def binary (c : Chain) (op : BinaryOp) (operand scale : Argument) : Except Fault Chain := do
  let x ← operand.toDecimal
  let v ← Fault.require (.scopeWithoutValue (.binary op)) c.exposed.value
  let w ← op.apply v x scale
  return (c.withValue w).recording fun t ↦ t.binary op (.decimal x) scale

/-- Changes the value. -/
def unary (c : Chain) (op : UnaryOp) (scale : Argument) : Except Fault Chain := do
  let v ← Fault.require (.scopeWithoutValue (.unary op)) c.exposed.value
  let w ← op.apply v scale
  return (c.withValue w).recording fun t ↦ t.unary op scale c.exposed.start

/-- The trace behind the text that opens a group, and behind the first value of the group. -/
def openedTrace (op : Operator) (value : Option Decimal) (t : Trace) : Trace :=
  match value with
  | none => t.openGroup op
  | some v => (t.openGroup op).operand (.decimal v)

/-- The mark behind the text that opens a group. -/
def openedMark (op : Operator) : Option Trace → Nat
  | none => 0
  | some t => (t.openGroup op).mark

/-- The scale that a parenthesis is opened with. It is looked at only for an operator that needs
one, and may be left out. -/
def openingScale (op : Operator) (scale : Argument) : Except Fault (Option Int) :=
  if op.needsScale then scale.toScale? else .ok none

/-- The chain in which a nested scope was opened. -/
def opened (c : Chain) (op : Operator) (scale : Option Int) (value : Option Decimal) : Chain where
  exposed := ⟨c.size, value, openedMark op c.trace⟩
  enclosing := ⟨c.exposed, op, scale⟩ :: c.enclosing
  closed := c.closed
  trace := c.trace.map (openedTrace op value)

/-- Opens a parenthesis. -/
def openGroup (c : Chain) (op : Operator) (operand scale : Argument) : Except Fault Chain := do
  let s ← openingScale op scale
  let value ← operand.toDecimal?
  return c.opened op s value

/-- The chain in which the exposed scope was closed and the value of the enclosing one replaced. -/
def closedInto (c : Chain) (w : Waiting) (rest : List Waiting) (v : Decimal) : Chain where
  exposed := { w.scope with value := some v }
  enclosing := rest
  closed := c.closed ++ [c.exposed]
  trace := c.trace.map fun t ↦ t.closeGroup w.pending (.ofInt? w.scale)

/-- Closes the parenthesis, so that the enclosing scope is exposed again. -/
def close (c : Chain) : Except Fault Chain :=
  match c.enclosing with
  | [] => .error .nothingToClose
  | w :: rest =>
    (foldGroup w.pending w.scale w.scope.value c.exposed.value).map (c.closedInto w rest)

/-- Carries out a call on the exposed scope. -/
def act (c : Chain) : Call → Except Fault Chain
  | .binary op operand scale => c.binary op operand scale
  | .unary op scale => c.unary op scale
  | .openGroup op operand scale => c.openGroup op operand scale
  | .close => c.close

/-! ## Addressing a scope -/

/-- Where the scope of a number is. -/
def place (c : Chain) (id : Nat) : Place :=
  if c.exposed.id = id then .exposed
  else if c.enclosing.any (·.scope.id == id) then .covered
  else .closed

/-- Why a call on a covered scope fails. Of the outermost scope there is no parenthesis to close,
whether or not a scope is open in it. -/
def coveredFault (c : Chain) (id : Nat) (call : Call) : Fault :=
  if call = .close ∧ c.enclosing.getLast?.map (·.scope.id) = some id then .nothingToClose
  else .nestedScopeOpen

/-- Carries out a call on the scope of a number. The scope to go on with is the one that is exposed
afterwards. -/
def call (c : Chain) (id : Nat) (call : Call) : Except Fault Chain :=
  match c.place id with
  | .exposed => c.act call
  | .covered => .error (c.coveredFault id call)
  | .closed => .error .scopeClosed

/-- The value of the whole chain, read from the scope of a number: every parenthesis is closed
again, and there is a value. -/
def result (c : Chain) (id : Nat) : Except Fault Decimal :=
  match c.place id, c.enclosing with
  | .closed, _ => .error .scopeClosed
  | .exposed, [] => Fault.require .chainWithoutValue c.exposed.value
  | _, _ => .error .openScopes

/-- The formula, if the chain is traced. -/
def formula? (c : Chain) : Option String := c.trace.map Trace.render

end Chain

end Bracket

end ChainedDecimal
