import ChainedDecimal.Bracket.View
import ChainedDecimal.Settings

/-!
# Scopes as nodes

In memory a scope of a bracketed chain is a node. It knows the scope that it is nested in and the
one that is nested in it by their addresses, and all scopes of a chain share one formula. Nothing in
a node says that a parent knows its child: whether the two ends of a link agree, and whether the
links of a chain are a path at all, depends on how nodes are written.

## Actions

What is done to a memory is an action. It reads nodes, writes fields one after the other, and may
fail; what was written before a failure stays written. So it is a matter of their order whether an
action that fails has left traces.

## Reading

The depth of a node is counted by following its parents, one after the other. For nodes that are
linked in a circle this would never come to an end. Whoever has passed more nodes than there are
goes round in a circle, so `climb` gives up then, and nothing is seen of such a node.
-/

namespace ChainedDecimal

namespace Bracket

/-- Where a node is kept. -/
abbrev Address := Nat

/-- A scope in memory. -/
structure Node where
  /-- The value so far, if there is one. -/
  value : Option Decimal
  /-- The operator that is waiting for the nested scope to be closed. -/
  pending : Operator
  /-- The scale that was given with it. -/
  scale : Option Int
  /-- The enclosing scope. -/
  parent : Option Address
  /-- The nested scope. -/
  child : Option Address
  /-- The formula that the scope writes to, if its chain is traced. -/
  formula : Option Nat
  /-- The mark at which the scope's own text starts in it. -/
  start : Nat
  /-- Whether the scope was closed. -/
  closed : Bool
deriving DecidableEq

/-- A scope in which nothing has happened yet. -/
def Node.fresh (value : Option Decimal) (parent : Option Address) (formula : Option Nat)
    (start : Nat) : Node where
  value := value
  pending := .plain
  scale := none
  parent := parent
  child := none
  formula := formula
  start := start
  closed := false

/-- The nodes and formulas of all bracketed chains, and what calculations share. -/
structure Memory where
  nodes : List Node
  formulas : List Trace
  settings : Settings
  /-- What has been reported. -/
  events : List Event

namespace Memory

/-! ## Writing -/

/-- The memory with a change to the node at an address. -/
def update (m : Memory) (a : Address) (change : Node → Node) : Memory :=
  { m with nodes := m.nodes.modify a change }

/-- The memory with a change to a formula, if there is one. -/
def record (m : Memory) (formula : Option Nat) (change : Trace → Trace) : Memory :=
  match formula with
  | none => m
  | some t => { m with formulas := m.formulas.modify t change }

/-- The formula that is meant, if there is one. -/
def formula? (m : Memory) (formula : Option Nat) : Option Trace :=
  formula.bind fun t ↦ m.formulas[t]?

end Memory

/-- What can be done to a memory. -/
abbrev Action := ExceptT Fault (StateM Memory)

namespace Action

variable {α : Type}

/-- What an action comes to on a memory: its outcome, and the memory afterwards. -/
def on (x : Action α) (m : Memory) : Except Fault α × Memory := StateT.run (ExceptT.run x) m

/-- Takes over an outcome. -/
def attempt (outcome : Except Fault α) : Action α := ExceptT.mk (pure outcome)

/-- The node at an address. -/
def node (a : Address) : Action Node := do
  attempt (Fault.require .unknownRequest (← get).nodes[a]?)

/-- Changes the node at an address. -/
def update (a : Address) (change : Node → Node) : Action Unit := modify (·.update a change)

/-- Writes to a formula, if there is one. -/
def record (formula : Option Nat) (change : Trace → Trace) : Action Unit :=
  modify (·.record formula change)

/-- The mark at the end of a formula, if there is one. -/
def markOf (formula : Option Nat) : Action Nat := do
  return (((← get).formula? formula).map Trace.mark).getD 0

/-- Adds a node. -/
def allocate (n : Node) : Action Address := do
  let m ← get
  set { m with nodes := m.nodes ++ [n] }
  return m.nodes.length

/-- Adds a formula. -/
def allocateFormula (t : Trace) : Action Nat := do
  let m ← get
  set { m with formulas := m.formulas ++ [t] }
  return m.formulas.length

/-- Reports a formula with its result, if there is a formula. -/
def report (formula : Option Nat) (result : Decimal) : Action Unit :=
  modify fun m ↦
    { m with events := m.events ++ ((m.formula? formula).map fun t ↦
        Event.evaluated Session.bracketEngine t.render (.decimal result)).toList }

/-- Passes a result through the installed pool. A pool that keeps entries reduces the result first,
which may fail, and looks for an entry then. -/
def pooled (result : Decimal) : Action Decimal := do
  let settings := (← get).settings
  match settings.installedPool with
  | .keeping pool =>
    let reduced ← attempt result.normalize
    modify fun m ↦ { m with
      settings := settings.setPool settings.installed (.keeping (pool.place reduced).2) }
    return (pool.place reduced).1
  | _ => return result

end Action

namespace Memory

/-! ## Reading -/

/-- Counts the scopes from one on outwards, in at most `limit` steps. -/
def climb (m : Memory) (limit : Nat) (scope : Option Address) (depth : Nat) : Option Nat :=
  match limit, scope with
  | _, none => some depth
  | 0, some _ => none
  | limit + 1, some a => do
    let n ← m.nodes[a]?
    m.climb limit n.parent (depth + 1)

/-- The number of scopes that the node at an address is nested in. -/
def depth? (m : Memory) (a : Address) : Option Nat := do
  let n ← m.nodes[a]?
  m.climb m.nodes.length n.parent 0

/-- What can be seen of the node at an address. -/
def view? (m : Memory) (a : Address) : Option View := do
  let n ← m.nodes[a]?
  let depth ← m.depth? a
  return {
    value := n.value
    pending := n.pending
    scale := n.scale
    parent := n.parent
    child := n.child
    depth := depth
    closed := n.closed }

end Memory

end Bracket

end ChainedDecimal
