import ChainedDecimal.Proofs.Session.Failures

/-!
# Commands that do not look at bracketed chains

A command that is not addressed to bracketed chains is answered in the same way whether or not there
are any, and does the same to everything else.
-/

namespace ChainedDecimal

namespace Session

/-- The session without its bracketed chains. -/
def withoutBrackets (s : Session) : Session :=
  { s with brackets := [], scopes := [], latestScope := none }

/-- An answer, and the session without its bracketed chains. -/
def overlooked (r : Session × Reply) : Session × Reply := (r.1.withoutBrackets, r.2)

variable (s : Session)

theorem read_withoutBrackets (engine : String) (formula : Option String) (v : Numeral)
    (status : Status) :
    s.withoutBrackets.read engine formula v status =
      overlooked (s.read engine formula v status) := by
  have hsettings : s.withoutBrackets.settings = s.settings := rfl
  simp only [read, finish, hsettings]
  cases s.settings.pooledNumeral v <;> rfl

theorem calculate_withoutBrackets (c : Calculator.Call) :
    s.withoutBrackets.calculate c = overlooked (s.calculate c) := by
  have hsettings : s.withoutBrackets.settings = s.settings := rfl
  simp only [calculate, hsettings]
  cases c.run s.settings <;> rfl

theorem onSettings_withoutBrackets (request : SettingsRequest) :
    s.withoutBrackets.onSettings request = overlooked (s.onSettings request) := by
  have hsame : s.withoutBrackets.changeSettings request = s.changeSettings request := by
    cases request <;> rfl
  simp only [onSettings, hsame]
  cases s.changeSettings request <;> rfl

theorem newPool_withoutBrackets (sort : PoolSort) :
    s.withoutBrackets.newPool sort = overlooked (s.newPool sort) := by
  unfold newPool
  cases poolOfSort sort <;> rfl

theorem askPool_withoutBrackets (ref : PoolRef) (p : Pool) (request : PoolRequest) :
    s.withoutBrackets.askPool ref p request = overlooked (s.askPool ref p request) := by
  cases request with
  | get x =>
    simp only [askPool]
    cases p.answer x <;> rfl
  | clear => rfl
  | shown => rfl
  | refused why => rfl

theorem onPool_withoutBrackets (on : String) (request : PoolRequest) :
    s.withoutBrackets.onPool on request = overlooked (s.onPool on request) := by
  have href : s.withoutBrackets.poolRef? on = s.poolRef? on := rfl
  have hsettings : s.withoutBrackets.settings = s.settings := rfl
  simp only [onPool, href, hsettings]
  rcases s.poolRef? on with _ | ref
  · rfl
  simp only
  rcases s.settings.pool? ref with _ | p
  · rfl
  · exact s.askPool_withoutBrackets ref p request

theorem addChain?_withoutBrackets (c : Except Fault Closure.Chain) (notes : List Closure.Note) :
    s.withoutBrackets.addChain? c notes = overlooked (s.addChain? c notes) := by
  cases c <;> rfl

theorem beginChain_withoutBrackets (x : Argument) :
    s.withoutBrackets.beginChain x = overlooked (s.beginChain x) := by
  have hsettings : s.withoutBrackets.settings = s.settings := rfl
  simp only [beginChain, hsettings]
  cases Closure.Chain.begin x s.settings.tracing <;> rfl

theorem askChain_withoutBrackets (c : Closure.Chain) (request : ChainRequest) :
    s.withoutBrackets.askChain c request = overlooked (s.askChain c request) := by
  cases request with
  | join op operand scale => exact s.addChain?_withoutBrackets _ _
  | change op scale => exact s.addChain?_withoutBrackets _ _
  | result => exact s.read_withoutBrackets _ _ _ _
  | refused why => rfl

theorem onChain_withoutBrackets (on : Option String) (request : ChainRequest) :
    s.withoutBrackets.onChain on request = overlooked (s.onChain on request) := by
  have hplace : s.withoutBrackets.chainPlace? on = s.chainPlace? on := by
    cases on <;> rfl
  have hchains : s.withoutBrackets.chains = s.chains := rfl
  simp only [onChain, hplace, hchains]
  rcases (s.chainPlace? on).bind fun i ↦ s.chains[i]? with _ | c
  · rfl
  · exact s.askChain_withoutBrackets c request

theorem compareChains_withoutBrackets (a b : String) :
    s.withoutBrackets.compareChains a b = overlooked (s.compareChains a b) := by
  have hplace : ∀ name, s.withoutBrackets.chainPlace? name = s.chainPlace? name := by
    intro name
    cases name <;> rfl
  simp only [compareChains, hplace]
  rcases s.chainPlace? (some a) with _ | i <;> rcases s.chainPlace? (some b) with _ | j <;> rfl

theorem onGroup_withoutBrackets (on : String) (request : GroupRequest) :
    s.withoutBrackets.onGroup on request = overlooked (s.onGroup on request) := by
  have hgroups : s.withoutBrackets.groups = s.groups := rfl
  simp only [onGroup, hgroups]
  rcases placeOf? "g" s.groups.length on with _ | i
  · rfl
  simp only
  rcases s.groups[i]? with _ | g
  · rfl
  · cases request <;> rfl

theorem onTrace_withoutBrackets (on : String) (request : TraceRequest) :
    s.withoutBrackets.onTrace on request = overlooked (s.onTrace on request) := by
  have htraces : s.withoutBrackets.traces = s.traces := rfl
  simp only [onTrace, htraces]
  rcases placeOf? "t" s.traces.length on with _ | i
  · rfl
  simp only
  rcases s.traces[i]? with _ | t
  · rfl
  simp only
  cases writeTrace t request <;> rfl

/-- A command that is not addressed to bracketed chains overlooks them. -/
theorem step_withoutBrackets {command : Command} (h : command.onBrackets = false) :
    s.withoutBrackets.step command = overlooked (s.step command) := by
  cases command with
  | beginBracket x => cases h
  | scope on request => cases h
  | beginChain x => exact s.beginChain_withoutBrackets x
  | newChain value formula => rfl
  | chain on request => exact s.onChain_withoutBrackets on request
  | compareChains a b => exact s.compareChains_withoutBrackets a b
  | newGroup traced => rfl
  | group on request => exact s.onGroup_withoutBrackets on request
  | evaluate script traced => rfl
  | newTrace x => rfl
  | trace on request => exact s.onTrace_withoutBrackets on request
  | report engine formula result => rfl
  | newPool sort => exact s.newPool_withoutBrackets sort
  | pool on request => exact s.onPool_withoutBrackets on request
  | setVariables changes => rfl
  | settings request => exact s.onSettings_withoutBrackets request
  | calculate c => exact s.calculate_withoutBrackets c
  | refused why => rfl

end Session

end ChainedDecimal
