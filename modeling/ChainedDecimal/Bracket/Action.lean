import ChainedDecimal.Bracket.Node

/-!
# Calls as actions on nodes

Each call is a sequence of checks and writes on the node that it is made on, `self`. The writes are
single: closing a parenthesis writes to two nodes, field by field, and to the formula that both
share.
-/

namespace ChainedDecimal

namespace Bracket

/-- The value that a scope gets from the value of a group in it, under the operator that waits for
the group. A scope without a value counts as zero. -/
def folded (op : Operator) (scale : Option Int) (outer : Option Decimal) (inner : Decimal) :
    Except Fault Decimal :=
  match op with
  | .plain => .ok inner
  | .unary op => op.apply inner (.ofInt? scale)
  | .binary op => op.apply (outer.getD .zero) inner (.ofInt? scale)

namespace Action

/-! ## Checks -/

/-- Fails on a scope that was closed. -/
def checkOpen (self : Address) : Action Unit := do
  if (← node self).closed then throw .scopeClosed

/-- Fails on a scope in which another one is open. -/
def checkNoOpenChild (self : Address) : Action Unit := do
  if (← node self).child.isSome then throw .nestedScopeOpen

/-- Fails on a scope that is not the only one open. -/
def checkAlone (self : Address) : Action Unit := do
  let scope ← node self
  if scope.child.isSome || scope.parent.isSome then throw .openScopes

/-- Fails on a scope where an operator is waiting for a scale. -/
def checkScale (self : Address) : Action Unit := do
  let scope ← node self
  if scope.pending.needsScale && scope.scale.isNone then throw (.missingScale scope.pending)

/-- The value of a scope, or else a fault. -/
def requireValue (self : Address) (f : Fault) : Action Decimal := do
  attempt (f.require (← node self).value)

/-- The enclosing scope, or else a fault. -/
def requireParent (self : Address) (f : Fault) : Action Address := do
  attempt (f.require (← node self).parent)

/-! ## Calls -/

/-- Joins the value with an operand. -/
def binary (self : Address) (op : BinaryOp) (operand scale : Argument) : Action Address := do
  checkOpen self
  checkNoOpenChild self
  let scope ← node self
  let other ← attempt operand.toDecimal
  let value ← requireValue self (.scopeWithoutValue (.binary op))
  let result ← attempt (op.apply value other scale)
  update self fun n ↦ { n with value := some result }
  record scope.formula fun t ↦ t.binary op (.decimal other) scale
  return self

/-- Changes the value. -/
def unary (self : Address) (op : UnaryOp) (scale : Argument) : Action Address := do
  checkOpen self
  checkNoOpenChild self
  let scope ← node self
  let value ← requireValue self (.scopeWithoutValue (.unary op))
  let result ← attempt (op.apply value scale)
  update self fun n ↦ { n with value := some result }
  record scope.formula fun t ↦ t.unary op scale scope.start
  return self

/-- Opens a parenthesis: writes its text, and links a new node with this one. -/
def openGroup (self : Address) (op : Operator) (operand scale : Argument) : Action Address := do
  checkOpen self
  checkNoOpenChild self
  let scope ← node self
  let s ← attempt (Chain.openingScale op scale)
  let value ← attempt operand.toDecimal?
  record scope.formula fun t ↦ t.openGroup op
  let start ← markOf scope.formula
  record scope.formula fun t ↦ (value.map fun v ↦ t.operand (.decimal v)).getD t
  let child ← allocate (.fresh value (some self) scope.formula start)
  update self fun n ↦ { n with child := some child }
  update self fun n ↦ { n with pending := op }
  update self fun n ↦ { n with scale := s }
  return child

/-- Closes the parenthesis: folds the value into the enclosing scope, writes the text, and takes the
link between the two nodes apart. -/
def close (self : Address) : Action Address := do
  checkOpen self
  let parent ← requireParent self .nothingToClose
  checkNoOpenChild self
  let inner ← node self
  let outer ← node parent
  checkScale parent
  let value ← requireValue self .closedWithoutValue
  let result ← attempt (folded outer.pending outer.scale outer.value value)
  update parent fun n ↦ { n with value := some result }
  record inner.formula fun t ↦ t.closeGroup outer.pending (.ofInt? outer.scale)
  update parent fun n ↦ { n with child := none }
  update parent fun n ↦ { n with pending := .plain }
  update parent fun n ↦ { n with scale := none }
  update self fun n ↦ { n with parent := none }
  update self fun n ↦ { n with closed := true }
  return parent

/-- Carries out a call on a scope, and answers with the scope to go on with. -/
def call (self : Address) : Call → Action Address
  | .binary op operand scale => binary self op operand scale
  | .unary op scale => unary self op scale
  | .openGroup op operand scale => openGroup self op operand scale
  | .close => close self

/-- Reads the result of a chain: reports the formula, and passes the value through the pool. -/
def result (self : Address) : Action Decimal := do
  checkOpen self
  checkAlone self
  let scope ← node self
  let value ← requireValue self .chainWithoutValue
  report scope.formula value
  pooled value

/-- Begins a chain, whose first value may be absent. -/
def start (initial : Argument) : Action Address := do
  let value ← attempt initial.toDecimal?
  let formula ←
    if (← get).settings.tracing then some <$> allocateFormula (.ofValue? value) else pure none
  allocate (.fresh value none formula 0)

end Action

end Bracket

end ChainedDecimal
