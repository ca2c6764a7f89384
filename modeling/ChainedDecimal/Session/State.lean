import ChainedDecimal.Session.Reply

/-!
# Sessions

A session is a state in which calculations of all kinds live side by side: bracketed chains, chains
with callables, groups and traces that stand alone, the pools and the settings.

## Names

An object is named by a letter for its kind and by its place in the order of creation, `n0`, `n1`
and so on for scopes. The scopes of all bracketed chains are numbered together; a session remembers
for each which chain it belongs to and which number it has there. So a chain knows nothing of the
others, and two chains can have nothing in common but the settings.
-/

namespace ChainedDecimal

/-- A state in which calculations live side by side. -/
structure Session where
  settings : Settings
  brackets : List Bracket.Chain
  /-- For each scope the place of its chain and its number there. -/
  scopes : List (Nat × Nat)
  /-- The scope of the latest answer. -/
  latestScope : Option Nat
  chains : List Closure.Chain
  groups : List Closure.Group
  traces : List Trace

namespace Session

/-- The session at the beginning. -/
def initial : Session := ⟨.initial, [], [], none, [], [], []⟩

/-! ## Names -/

/-- The name of the object of a kind at a place. -/
def nameOf (letter : String) (i : Nat) : String := letter ++ intText i

/-- The place, among so many objects of a kind, of the one with a name. -/
def placeOf? (letter : String) (count : Nat) (name : String) : Option Nat :=
  (List.range count).find? fun i ↦ nameOf letter i == name

/-- The name of a scope. -/
def scopeName (i : Nat) : String := nameOf "n" i

/-- The name of a chain with callables. -/
def chainName (i : Nat) : String := nameOf "c" i

/-- The name of a group. -/
def groupName (i : Nat) : String := nameOf "g" i

/-- The name of a pool that was created. -/
def poolName (i : Nat) : String := nameOf "p" i

/-- The name of a trace. -/
def traceName (i : Nat) : String := nameOf "t" i

/-- The name of the standard pool. -/
def standardPoolName : String := "default"

/-- The scope that is meant: the named one, or else that of the latest answer. -/
def scopePlace? (s : Session) : Option String → Option Nat
  | none => s.latestScope
  | some name => placeOf? "n" s.scopes.length name

/-- The chain that is meant: the named one, or else the latest. -/
def chainPlace? (s : Session) : Option String → Option Nat
  | none => if s.chains.length = 0 then none else some (s.chains.length - 1)
  | some name => placeOf? "c" s.chains.length name

/-- The pool of a name. -/
def poolRef? (s : Session) (name : String) : Option PoolRef :=
  if name = standardPoolName then some .standard
  else (placeOf? "p" s.settings.created.length name).map .created

/-- How an installed pool is shown: by its name, or by its sort if it has none. -/
def shownPool (s : Session) : String :=
  match s.settings.installed with
  | .standard => standardPoolName
  | .created i => poolName i
  | .unnamed => s.settings.installedPool.sort

/-! ## What is shown of a state -/

/-- The name of a scope of a bracketed chain. -/
def scopeNameIn? (s : Session) (chain id : Nat) : Option String :=
  (s.scopes.findIdx? (· == (chain, id))).map scopeName

/-- The state of a scope. -/
def scopeState? (s : Session) (i : Nat) : Option ScopeState := do
  let (chain, id) ← s.scopes[i]?
  let c ← s.brackets[chain]?
  let v ← c.view? id
  return {
    name := scopeName i
    view := v
    parent := v.parent.bind (s.scopeNameIn? chain)
    child := v.child.bind (s.scopeNameIn? chain) }

/-- The states of some scopes. -/
def scopeStates (s : Session) (is : List Nat) : Status := .scopes (is.filterMap s.scopeState?)

/-- The number of entries of the installed pool. -/
def installedEntries (s : Session) : Option Nat := s.settings.installedPool.size?

/-- The settings as they are shown. -/
def settingsStatus (s : Session) : Status :=
  .settings s.shownPool s.installedEntries s.settings.tracing

/-! ## Results -/

/-- Passes a result through the installed pool. -/
def finish (s : Session) (v : Numeral) : Except Fault (Numeral × Session) :=
  (s.settings.pooledNumeral v).map fun (w, settings) ↦ (w, { s with settings })

/-- The events of reading a result: one if there is a formula. -/
def evaluated (engine : String) (formula : Option String) (v : Numeral) : List Event :=
  (formula.map fun f ↦ Event.evaluated engine f (.ofNumeral v)).toList

/-- Reads a result: reports the formula if there is one, and passes the value through the installed
pool. -/
def read (s : Session) (engine : String) (formula : Option String) (v : Numeral) (status : Status) :
    Session × Reply :=
  match s.finish v with
  | .error f => (s, ⟨.error f, status, evaluated engine formula v⟩)
  | .ok (w, s) => (s, ⟨.ok (.result w s.installedEntries), status, evaluated engine formula v⟩)

end Session

end ChainedDecimal
