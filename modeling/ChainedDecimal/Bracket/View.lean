import ChainedDecimal.Bracket.Chain

/-!
# What can be seen of a scope

Every scope of a chain can be looked at at any time, whether it is exposed, encloses an open scope
or was closed. A closed scope has left its parent, so it shows no parent and stands at depth zero.
-/

namespace ChainedDecimal

namespace Bracket

/-- What can be seen of a scope. Scopes are referred to by their numbers. -/
structure View where
  /-- The value, if there is one. -/
  value : Option Decimal
  pending : Operator
  scale : Option Int
  parent : Option Nat
  child : Option Nat
  depth : Nat
  closed : Bool
deriving DecidableEq

namespace Chain

/-- The number of the innermost of some enclosing scopes. -/
def innermost (ws : List Waiting) : Option Nat := ws.head?.map (·.scope.id)

/-- The views of enclosing scopes, of which the innermost one encloses the scope `inner`. -/
def waitingViews (inner : Nat) : List Waiting → List (Nat × View)
  | [] => []
  | w :: rest =>
    (w.scope.id,
      { value := w.scope.value
        pending := w.pending
        scale := w.scale
        parent := innermost rest
        child := some inner
        depth := rest.length
        closed := false }) :: waitingViews w.scope.id rest

/-- The view of the exposed scope. -/
def exposedView (c : Chain) : View where
  value := c.exposed.value
  pending := .plain
  scale := none
  parent := innermost c.enclosing
  child := none
  depth := c.enclosing.length
  closed := false

/-- The view of a closed scope. -/
def closedView (s : Scope) : View where
  value := s.value
  pending := .plain
  scale := none
  parent := none
  child := none
  depth := 0
  closed := true

/-- The views of all scopes there have been, with their numbers. -/
def views (c : Chain) : List (Nat × View) :=
  (c.exposed.id, c.exposedView) :: waitingViews c.exposed.id c.enclosing ++
    c.closed.map fun s ↦ (s.id, closedView s)

/-- The view of a scope. -/
def view? (c : Chain) (id : Nat) : Option View := c.views.lookup id

end Chain

/-- A scope as shown to a reader. -/
def View.shown (v : View) : String :=
  "ChainNode(value=" ++ (v.value.map Decimal.text).getD "None" ++ ", pending=" ++
    v.pending.capitals ++ ", depth=" ++ intText v.depth ++ ")"

end Bracket

end ChainedDecimal
