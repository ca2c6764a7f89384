import ChainedDecimal.Proofs.Alike.Session
import ChainedDecimal.Proofs.Session.Failures

/-!
# What a command does to the settings, and what it reports

Of all that a session can be asked little has to do with the settings, which hold the pools. A
result that is read, or calculated, passes through the installed pool; pools are asked, cleared and
created; the settings are changed. And of all that is reported only the reading of a result tells of
a formula. `SettingsStep` says this once, for every command with its outcome, the settings
afterwards and the events.
-/

namespace ChainedDecimal

/-- Whether an event tells of a formula and its result. -/
def Event.isEvaluation : Event → Bool
  | .formulaEvaluated _ _ _ => true
  | _ => false

namespace Session

/-- Whether a command asks for the result of a calculation. -/
def Command.asksResult : Command → Bool
  | .scope _ .result | .chain _ .result | .calculate _ => true
  | _ => false

/-- A command that may report an evaluation: it reads a result, or is itself a report. -/
inductive Command.Evaluates : Command → Prop where
  | scope (on : Option String) : Command.Evaluates (.scope on .result)
  | chain (on : Option String) : Command.Evaluates (.chain on .result)
  | report (engine formula : String) (result : Argument) :
      Command.Evaluates (.report engine formula result)

/-- What a command can do to the settings of a session, and what it answers and reports then. -/
inductive SettingsStep (s : Session) :
    Command → Except Fault Outcome → Settings → List Event → Prop where
  /-- Nothing. -/
  | same {c : Command} {outcome : Except Fault Outcome} {events : List Event}
      (quiet : ¬c.Evaluates → events = []) : SettingsStep s c outcome s.settings events
  /-- Pass a result through the installed pool. -/
  | pooled {c : Command} {x y : Numeral} {entries : Option Nat} {settings : Settings}
      {events : List Event} (asks : c.asksResult = true)
      (pooled_eq : s.settings.pooledNumeral x = .ok (y, settings))
      (quiet : ¬c.Evaluates → events = []) :
      SettingsStep s c (.ok (.result y entries)) settings events
  /-- Ask a pool. -/
  | asked {on : String} {x y : Argument} {ref : PoolRef} {p q : Pool}
      (ref_eq : s.poolRef? on = some ref) (pool_eq : s.settings.pool? ref = some p)
      (answer_eq : p.answer x = .ok (y, q)) :
      SettingsStep s (.pool on (.get x)) (.ok (.pooled y q.size?)) (s.settings.setPool ref q) []
  /-- Clear a pool. -/
  | cleared {on : String} {ref : PoolRef} {p : Pool} {events : List Event}
      (ref_eq : s.poolRef? on = some ref) (reports : ∀ e ∈ events, e.isEvaluation = false) :
      SettingsStep s (.pool on .clear) (.ok (.entries p.clear.size?))
        (s.settings.setPool ref p.clear) events
  /-- Clear the installed pool. -/
  | clearedInstalled {events : List Event} (reports : ∀ e ∈ events, e.isEvaluation = false) :
      SettingsStep s (.settings .clearPool) (.ok .done)
        (s.settings.setPool s.settings.installed s.settings.installedPool.clear) events
  /-- Create a pool. -/
  | created {sort : PoolSort} {p : Pool} {name : String} {policy : Option PoolPolicy}
      (sort_eq : poolOfSort sort = .ok (p, policy)) :
      SettingsStep s (.newPool sort) (.ok (.pool name policy)) (s.settings.create p) []
  /-- Change something else, and no pool. -/
  | administered {c : Command} {settings : Settings} {events : List Event}
      (administers : c.isCalculation = false)
      (standard_eq : settings.standard = s.settings.standard)
      (created_eq : settings.created = s.settings.created)
      (reports : ∀ e ∈ events, e.isEvaluation = false) :
      SettingsStep s c (.ok .done) settings events

/-- What an answer of the session has to do with the settings. -/
def StepsSettings (s : Session) (c : Command) (p : Session × Reply) : Prop :=
  SettingsStep s c p.2.outcome p.1.settings p.2.events

variable (s : Session) {command : Command}

/-! ## Calculations -/

/-- What leaves the settings alone and reports nothing. -/
theorem StepsSettings.quiet {p : Session × Reply} (hsettings : p.1.settings = s.settings)
    (hevents : p.2.events = []) : StepsSettings s command p := by
  rw [StepsSettings, hsettings, hevents]
  exact .same fun _ ↦ rfl

theorem stepsSettings_read {engine : String} {formula : Option String} {v : Numeral}
    {status : Status} (hasks : command.asksResult = true) (hreads : command.Evaluates) :
    StepsSettings s command (s.read engine formula v status) := by
  rw [StepsSettings, read, finish]
  cases hpooled : s.settings.pooledNumeral v with
  | error f => exact .same fun hother ↦ absurd hreads hother
  | ok p => exact .pooled hasks hpooled fun hother ↦ absurd hreads hother

theorem stepsSettings_callScope (i chain id : Nat) (c : Bracket.Chain) (call : Bracket.Call) :
    StepsSettings s command (s.callScope i chain id c call) := by
  unfold callScope
  split
  · exact .quiet s rfl rfl
  · dsimp only
    split
    · exact .quiet s rfl rfl
    · exact .quiet s rfl rfl

theorem stepsSettings_onScope (on : Option String) (request : ScopeRequest) :
    StepsSettings s (.scope on request) (s.onScope on request) := by
  rcases s.onScope_cases on request with heq | ⟨i, k, id, c, -, -, -, heq⟩
  · rw [heq]
    exact .quiet s rfl rfl
  · rw [heq]
    cases request with
    | call call => exact s.stepsSettings_callScope i k id c call
    | result =>
      rw [askScope]
      split
      · exact .quiet s rfl rfl
      · exact s.stepsSettings_read rfl (.scope on)
    | shown =>
      rw [askScope]
      split
      · exact .quiet s rfl rfl
      · exact .quiet s rfl rfl
    | refused why => exact .quiet s rfl rfl

theorem stepsSettings_onChain (on : Option String) (request : ChainRequest) :
    StepsSettings s (.chain on request) (s.onChain on request) := by
  have hadd : ∀ (c : Except Fault Closure.Chain) (notes : List Closure.Note),
      StepsSettings s (.chain on request) (s.addChain? c notes) := by
    intro c notes
    cases c with
    | error f => exact .quiet s rfl rfl
    | ok c => exact .quiet s rfl rfl
  cases hget : s.chain? on with
  | none =>
    rw [onChain_of_none hget]
    exact .quiet s rfl rfl
  | some c =>
    rw [onChain_of_some hget]
    cases request with
    | join op operand scale => exact hadd _ _
    | change op scale => exact hadd _ _
    | result => exact s.stepsSettings_read rfl (.chain on)
    | refused why => exact .quiet s rfl rfl

theorem stepsSettings_calculate (c : Calculator.Call) :
    StepsSettings s (.calculate c) (s.calculate c) := by
  rw [calculate]
  cases hrun : c.run s.settings with
  | error f => exact .quiet s rfl rfl
  | ok p =>
    obtain ⟨v, settings⟩ := p
    obtain ⟨w, -, hpooled⟩ := Fault.bind_eq_ok.1 hrun
    have hnumeral : s.settings.pooledNumeral (.finite w) = .ok (.finite v, settings) := by
      rw [Settings.pooledNumeral_finite, hpooled]
      rfl
    exact .pooled rfl hnumeral fun _ ↦ rfl

/-! ## Pools and settings -/

theorem stepsSettings_onPool (on : String) (request : PoolRequest) :
    StepsSettings s (.pool on request) (s.onPool on request) := by
  unfold onPool
  split
  · exact .quiet s rfl rfl
  · rename_i ref href
    split
    · exact .quiet s rfl rfl
    · rename_i p hpool
      cases request with
      | get x =>
        rw [askPool]
        split
        · exact .quiet s rfl rfl
        · rename_i y q hanswer
          exact .asked href hpool hanswer
      | clear =>
        refine .cleared href fun e he ↦ ?_
        obtain ⟨n, -, rfl⟩ := Option.map_eq_some_iff.1 (Option.mem_toList.1 he)
        rfl
      | shown => exact .quiet s rfl rfl
      | refused why => exact .quiet s rfl rfl

theorem isEvaluation_of_mem_poolOf {e : Environment} {event : Event}
    (h : event ∈ (Settings.poolOf e).2) : event.isEvaluation = false := by
  rw [Settings.poolOf] at h
  split at h
  · cases h
  · split at h
    · cases h
    · rw [List.mem_singleton.1 h]
      rfl

theorem stepsSettings_onSettings (request : SettingsRequest) :
    StepsSettings s (.settings request) (s.onSettings request) := by
  cases request with
  | install pool =>
    rw [onSettings, changeSettings]
    cases s.installable pool with
    | error f => exact .quiet s rfl rfl
    | ok p => exact .administered rfl rfl rfl (List.forall_mem_singleton.2 rfl)
  | clearPool =>
    refine .clearedInstalled fun e he ↦ ?_
    obtain ⟨n, -, rfl⟩ := Option.map_eq_some_iff.1 (Option.mem_toList.1 he)
    rfl
  | setTracing enabled => exact .administered rfl rfl rfl (List.forall_mem_singleton.2 rfl)
  | reset => exact .administered rfl rfl rfl fun _ he ↦ isEvaluation_of_mem_poolOf he
  | «show» => exact .quiet s rfl rfl
  | refused why => exact .quiet s rfl rfl

/-! ## Any command -/

theorem settingsStep (command : Command) :
    SettingsStep s command (s.step command).2.outcome (s.step command).1.settings
      (s.step command).2.events := by
  show StepsSettings s command (s.step command)
  cases command with
  | beginBracket initial =>
    rw [step, beginBracket]
    split
    · exact .quiet s rfl rfl
    · exact .quiet s rfl rfl
  | scope on request => exact s.stepsSettings_onScope on request
  | beginChain initial =>
    rw [step, beginChain]
    split
    · exact .quiet s rfl rfl
    · exact .quiet s rfl rfl
  | chain on request => exact s.stepsSettings_onChain on request
  | compareChains a b =>
    rw [step, compareChains]
    split
    · exact .quiet s rfl rfl
    · exact .quiet s rfl rfl
  | group on request =>
    rw [step, onGroup]
    split
    · exact .quiet s rfl rfl
    · split
      · exact .quiet s rfl rfl
      · cases request <;> exact .quiet s rfl rfl
  | trace on request =>
    rw [step, onTrace]
    split
    · exact .quiet s rfl rfl
    · split
      · exact .quiet s rfl rfl
      · split
        · exact .quiet s rfl rfl
        · exact .quiet s rfl rfl
  | report engine formula result =>
    exact .same fun hother ↦ absurd (.report engine formula result) hother
  | newPool sort =>
    rw [step, newPool]
    split
    · exact .quiet s rfl rfl
    · rename_i p policy hsort
      exact .created hsort
  | pool on request => exact s.stepsSettings_onPool on request
  | setVariables changes => exact .administered rfl rfl rfl (List.forall_mem_nil _)
  | settings request => exact s.stepsSettings_onSettings request
  | calculate c => exact s.stepsSettings_calculate c
  | newChain value formula | newGroup traced | evaluate script traced | newTrace initial
  | refused why => exact .quiet s rfl rfl

/-! ## Events -/

variable {s}

/-- Beside its result nothing of a calculation is reported. -/
theorem events_step_of_isCalculation (hcalc : command.isCalculation = true)
    (h : ¬command.Evaluates) : (s.step command).2.events = [] := by
  have hstep := s.settingsStep command
  generalize (s.step command).2.outcome = outcome at hstep
  generalize (s.step command).1.settings = settings at hstep
  generalize (s.step command).2.events = events at hstep ⊢
  cases hstep with
  | same quiet => exact quiet h
  | pooled _ _ quiet => exact quiet h
  | asked | created => rfl
  | cleared | clearedInstalled => cases hcalc
  | administered administers =>
    rw [administers] at hcalc
    cases hcalc

/-- An evaluation is reported when a result is read, or by a report that says so itself. -/
theorem evaluates_of_mem {engine formula result : String}
    (h : .formulaEvaluated engine formula result ∈ (s.step command).2.events) :
    command.Evaluates := by
  by_contra hother
  have hstep := s.settingsStep command
  generalize (s.step command).2.outcome = outcome at hstep
  generalize (s.step command).1.settings = settings at hstep
  generalize (s.step command).2.events = events at hstep h
  cases hstep with
  | same quiet | pooled _ _ quiet =>
    rw [quiet hother] at h
    cases h
  | asked | created => cases h
  | cleared _ reports | clearedInstalled reports | administered _ _ _ reports =>
    cases reports _ h

end Session

end ChainedDecimal
