import ChainedDecimal.Bracket.Action
import ChainedDecimal.Session.Step

/-!
# Sessions of nodes

A session as it is kept in memory. Its scopes are nodes that refer to each other, all in one memory,
and a command on a bracketed chain is an action on that memory. The name of a scope is that of its
address, so there is no table of scopes, and a chain is nothing but the nodes that belong together.

The commands on anything else are answered by a session of the other form, `others`, in which there
are no bracketed chains. Both forms share its settings.
-/

namespace ChainedDecimal

/-- A session whose scopes are nodes. -/
structure StoredSession where
  /-- The scopes of all bracketed chains. -/
  nodes : List Bracket.Node
  /-- Their formulas. -/
  formulas : List Trace
  /-- The scope of the latest answer. -/
  latestScope : Option Bracket.Address
  /-- The settings, and all that has nothing to do with bracketed chains. -/
  others : Session

namespace StoredSession

open ChainedDecimal.Bracket
open ChainedDecimal.Session (Command ScopeRequest ScopeState Reply Status scopeName placeOf?)

/-- The session at the beginning. -/
def initial : StoredSession := ⟨[], [], none, .initial⟩

/-- What an action works on. Nothing has been reported yet. -/
def memory (s : StoredSession) : Memory := ⟨s.nodes, s.formulas, s.others.settings, []⟩

/-- The session with another memory. -/
def withMemory (s : StoredSession) (m : Memory) : StoredSession :=
  { s with
    nodes := m.nodes
    formulas := m.formulas
    others := { s.others with settings := m.settings } }

/-- The scope that is meant: the named one, or else that of the latest answer. -/
def scopePlace? (s : StoredSession) : Option String → Option Address
  | none => s.latestScope
  | some name => placeOf? "n" s.nodes.length name

/-! ## What is shown of a state -/

/-- What can be seen of a scope. -/
def view? (s : StoredSession) (i : Address) : Option View := s.memory.view? i

/-- The state of a scope. -/
def scopeState? (s : StoredSession) (i : Address) : Option ScopeState :=
  (s.view? i).map fun v ↦ ⟨scopeName i, v, v.parent.map scopeName, v.child.map scopeName⟩

/-- The states of some scopes. -/
def scopeStates (s : StoredSession) (is : List Address) : Status :=
  .scopes (is.filterMap s.scopeState?)

/-! ## Commands -/

/-- Begins a bracketed chain. -/
def beginBracket (s : StoredSession) (x : Argument) : StoredSession × Reply :=
  let (outcome, m) := (Action.start x).on s.memory
  let s := s.withMemory m
  match outcome with
  | .error f => (s, ⟨.error f, .hidden, m.events⟩)
  | .ok i =>
    ({ s with latestScope := some i }, ⟨.ok (.scope (scopeName i)), s.scopeStates [i], m.events⟩)

/-- Carries out a call on a scope. -/
def callScope (s : StoredSession) (i : Address) (call : Call) : StoredSession × Reply :=
  let (outcome, m) := (Action.call i call).on s.memory
  let s := s.withMemory m
  match outcome with
  | .error f => (s, ⟨.error f, s.scopeStates [i], m.events⟩)
  | .ok j =>
    ({ s with latestScope := some j },
      ⟨.ok (.scope (scopeName j)), s.scopeStates (if j = i then [i] else [i, j]), m.events⟩)

/-- Reads the result of a chain. -/
def readScope (s : StoredSession) (i : Address) : StoredSession × Reply :=
  let (outcome, m) := (Action.result i).on s.memory
  let s := s.withMemory m
  (s, ⟨outcome.map fun v ↦ .result (.finite v) s.others.installedEntries, s.scopeStates [i],
    m.events⟩)

/-- Answers a request to a scope. -/
def askScope (s : StoredSession) (i : Address) : ScopeRequest → StoredSession × Reply
  | .call call => s.callScope i call
  | .result => s.readScope i
  | .shown =>
    match s.view? i with
    | none => (s, ⟨.error .unknownRequest, s.scopeStates [i], []⟩)
    | some v => (s, ⟨.ok (.text v.shown), s.scopeStates [i], []⟩)
  | .refused why => (s, ⟨.error why, s.scopeStates [i], []⟩)

/-- Answers a request to the scope that is meant. -/
def onScope (s : StoredSession) (on : Option String) (request : ScopeRequest) :
    StoredSession × Reply :=
  match s.scopePlace? on with
  | none => (s, .unknown)
  | some i => s.askScope i request

/-- Answers a command. -/
def step (s : StoredSession) : Command → StoredSession × Reply
  | .beginBracket x => s.beginBracket x
  | .scope on request => s.onScope on request
  | command => ({ s with others := (s.others.step command).1 }, (s.others.step command).2)

/-- Answers commands one after the other. -/
def run (s : StoredSession) : List Command → StoredSession × List Reply
  | [] => (s, [])
  | c :: cs =>
    let (s, reply) := s.step c
    let (s, replies) := run s cs
    (s, reply :: replies)

end StoredSession

end ChainedDecimal
