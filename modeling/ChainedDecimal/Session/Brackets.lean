import ChainedDecimal.Session.State

/-!
# Bracketed chains in a session

Beginning a chain gives a new scope, and so does opening a parenthesis. A call that succeeds answers
with the scope that its chain has exposed afterwards, which is the one that calls without a name go
to next.
-/

namespace ChainedDecimal

namespace Session

/-- Begins a bracketed chain. -/
def beginBracket (s : Session) (initial : Argument) : Session × Reply :=
  match Bracket.Chain.begin initial s.settings.tracing with
  | .error f => (s, .of (.error f))
  | .ok c =>
    let i := s.scopes.length
    let s := { s with
      brackets := s.brackets ++ [c]
      scopes := s.scopes ++ [(s.brackets.length, c.exposed.id)]
      latestScope := some i }
    (s, ⟨.ok (.scope (scopeName i)), s.scopeStates [i], []⟩)

/-- The session with another state of a bracketed chain, in which each scope has a name. -/
def withBracket (s : Session) (chain : Nat) (before after : Bracket.Chain) : Session :=
  { s with
    brackets := s.brackets.set chain after
    scopes :=
      if before.size < after.size then s.scopes ++ [(chain, after.exposed.id)] else s.scopes }

/-- Carries out a call on a scope. -/
def callScope (s : Session) (i chain id : Nat) (c : Bracket.Chain) (call : Bracket.Call) :
    Session × Reply :=
  match c.call id call with
  | .error f => (s, ⟨.error f, s.scopeStates [i], []⟩)
  | .ok after =>
    let s := s.withBracket chain c after
    match s.scopes.findIdx? (· == (chain, after.exposed.id)) with
    | none => (s, ⟨.error .unknownRequest, s.scopeStates [i], []⟩)
    | some j =>
      ({ s with latestScope := some j },
        ⟨.ok (.scope (scopeName j)), s.scopeStates (if j = i then [i] else [i, j]), []⟩)

/-- Answers a request to a scope. -/
def askScope (s : Session) (i chain id : Nat) (c : Bracket.Chain) (request : ScopeRequest) :
    Session × Reply :=
  match request with
  | .call call => s.callScope i chain id c call
  | .result =>
    match c.result id with
    | .error f => (s, ⟨.error f, s.scopeStates [i], []⟩)
    | .ok v => s.read bracketEngine c.formula? (.finite v) (s.scopeStates [i])
  | .shown =>
    match c.view? id with
    | none => (s, ⟨.error .unknownRequest, s.scopeStates [i], []⟩)
    | some v => (s, ⟨.ok (.text v.shown), s.scopeStates [i], []⟩)
  | .refused why => (s, ⟨.error why, s.scopeStates [i], []⟩)

/-- Answers a request to the scope that is meant. -/
def onScope (s : Session) (on : Option String) (request : ScopeRequest) : Session × Reply :=
  match s.scopePlace? on with
  | none => (s, .unknown)
  | some i =>
    match s.scopes[i]? with
    | none => (s, .unknown)
    | some (chain, id) =>
      match s.brackets[chain]? with
      | none => (s, .unknown)
      | some c => s.askScope i chain id c request

end Session

end ChainedDecimal
