import ChainedDecimal.Session.Command

/-!
# Replies

What a session answers to a command: the outcome, which is a fault if the command failed, the state
that is shown whether it failed or not, and the events that were reported on the way.
-/

namespace ChainedDecimal

namespace Session

/-- The state of a scope, with the names of the scopes around it. -/
structure ScopeState where
  name : String
  view : Bracket.View
  parent : Option String
  child : Option String
deriving DecidableEq

/-- What a command that succeeded has to say. -/
inductive Outcome where
  | done
  | scope (name : String)
  /-- The result of a calculation, and the number of entries of the pool that it passed through. -/
  | result (value : Numeral) (entries : Option Nat)
  | text (s : String)
  | chain (name : String) (c : Closure.Chain)
  | same (b : Bool)
  | group (name : String) (g : Closure.Group)
  | reading (r : Closure.Reading)
  | trace (name : String) (t : Trace)
  /-- A new pool, and its policy if it keeps entries. -/
  | pool (name : String) (policy : Option PoolPolicy)
  /-- The answer of a pool, and the number of its entries. -/
  | pooled (x : Argument) (entries : Option Nat)
  /-- A pool as shown to a reader, and the number of its entries. -/
  | shownPool (s : String) (entries : Option Nat)
  | entries (n : Option Nat)
deriving DecidableEq

/-- The state that is shown whether a command failed or not. -/
inductive Status where
  | hidden
  /-- The scope acted on, and the scope to go on with if it is another one. -/
  | scopes (states : List ScopeState)
  | notes (ns : List Closure.Note)
  /-- The group acted on, and the notes of the callables that were run. -/
  | group (g : Closure.Group) (ns : List Closure.Note)
  | trace (t : Trace)
  /-- The settings: the installed pool, the number of its entries, and whether tracing is on. -/
  | settings (pool : String) (entries : Option Nat) (tracing : Bool)
deriving DecidableEq

/-- What a session answers. -/
structure Reply where
  outcome : Except Fault Outcome
  status : Status
  /-- The events that were reported, in order. -/
  events : List Event

namespace Reply

/-- A reply that shows nothing but an outcome. -/
def of (outcome : Except Fault Outcome) : Reply := ⟨outcome, .hidden, []⟩

/-- A reply to a request that cannot be met. -/
def unknown : Reply := of (.error .unknownRequest)

end Reply

end Session

end ChainedDecimal
