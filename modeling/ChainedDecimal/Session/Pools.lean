import ChainedDecimal.Session.State

/-!
# Pools and settings in a session

Pools can be created, asked directly and installed; the settings can be changed and reset. What the
settings are is shown with every answer to a request to them, whether it failed or not.
-/

namespace ChainedDecimal

namespace Session

/-- The pool of a sort, and its policy if it keeps entries. -/
def poolOfSort : PoolSort → Except Fault (Pool × Option PoolPolicy)
  | .plain => .ok (.plain, none)
  | .disabled => .ok (.disabled, none)
  | .keeping maxScale bound =>
    (PoolPolicy.ofInts (maxScale.getD PoolPolicy.standard.maxScale)
      (bound.getD PoolPolicy.standard.bound)).map fun p ↦ (.keeping (.new p), some p)
  | .refused why => .error why

/-- Creates a pool. -/
def newPool (s : Session) (sort : PoolSort) : Session × Reply :=
  match poolOfSort sort with
  | .error f => (s, .of (.error f))
  | .ok (p, policy) =>
    ({ s with settings := s.settings.create p },
      .of (.ok (.pool (poolName s.settings.created.length) policy)))

/-- Answers a request to a pool. -/
def askPool (s : Session) (ref : PoolRef) (p : Pool) (request : PoolRequest) : Session × Reply :=
  match request with
  | .get x =>
    match p.answer x with
    | .error f => (s, .of (.error f))
    | .ok (y, p) =>
      ({ s with settings := s.settings.setPool ref p }, .of (.ok (.pooled y p.size?)))
  | .clear =>
    let cleared := s.settings.clearPool ref p
    ({ s with settings := cleared.1 }, ⟨.ok (.entries p.clear.size?), .hidden, cleared.2⟩)
  | .shown => (s, .of (.ok (.shownPool p.shown p.size?)))
  | .refused why => (s, .of (.error why))

/-- Answers a request to a pool of a name. -/
def onPool (s : Session) (on : String) (request : PoolRequest) : Session × Reply :=
  match s.poolRef? on with
  | none => (s, .unknown)
  | some ref =>
    match s.settings.pool? ref with
    | none => (s, .unknown)
    | some p => s.askPool ref p request

/-- Which pool an installation means, and what it is. -/
def installable (s : Session) : Installation → Except Fault (PoolRef × Pool)
  | .nothing => .ok (.unnamed, .disabled)
  | .named name =>
    match s.poolRef? name with
    | none => .error .unknownRequest
    | some ref => (Fault.require .unknownRequest (s.settings.pool? ref)).map fun p ↦ (ref, p)
  | .other x => .error (.notAPool x.typeName)

/-- The settings after a request, and the events on the way. -/
def changeSettings (s : Session) : SettingsRequest → Except Fault (Settings × List Event)
  | .install what => (s.installable what).map fun (ref, p) ↦ s.settings.install ref p
  | .clearPool => .ok s.settings.clearInstalled
  | .setTracing enabled => .ok (s.settings.setTracing enabled)
  | .reset => .ok s.settings.reset
  | .show => .ok (s.settings, [])
  | .refused why => .error why

/-- Answers a request to the settings. -/
def onSettings (s : Session) (request : SettingsRequest) : Session × Reply :=
  match s.changeSettings request with
  | .error f => (s, ⟨.error f, s.settingsStatus, []⟩)
  | .ok (settings, events) =>
    let s := { s with settings }
    (s, ⟨.ok .done, s.settingsStatus, events⟩)

/-- The environment after a variable was set or unset. Other variables are not looked at. -/
def setVariable (e : Environment) (change : String × Option String) : Environment :=
  if change.1 = traceVariable then { e with trace := change.2 }
  else if change.1 = poolVariable then { e with pool := change.2 }
  else e

/-- Sets or unsets variables of the environment. The settings do not change. -/
def setVariables (s : Session) (changes : List (String × Option String)) : Session × Reply :=
  ({ s with settings := { s.settings with
      environment := changes.foldl setVariable s.settings.environment } }, .of (.ok .done))

/-- Calculates something. -/
def calculate (s : Session) (c : Calculator.Call) : Session × Reply :=
  match c.run s.settings with
  | .error f => (s, .of (.error f))
  | .ok (v, settings) =>
    let s := { s with settings }
    (s, .of (.ok (.result (.finite v) s.installedEntries)))

end Session

end ChainedDecimal
