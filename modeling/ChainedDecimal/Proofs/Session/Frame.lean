import ChainedDecimal.Session.Step

/-!
# Commands that leave the scopes alone

Of all commands only two kinds change a bracketed chain: beginning one, and a call on a scope that
succeeds. Everything else, the reading of a result included, leaves the chains, the table of scopes
and the latest scope as they were.
-/

namespace ChainedDecimal

namespace Session

/-- Two sessions agree about the bracketed chains. -/
structure SameScopes (s t : Session) : Prop where
  /-- The chains are the same. -/
  brackets : t.brackets = s.brackets
  /-- The table of scopes is the same. -/
  scopes : t.scopes = s.scopes
  /-- The latest scope is the same. -/
  latestScope : t.latestScope = s.latestScope

namespace SameScopes

variable (s : Session)

protected theorem refl : SameScopes s s := ⟨rfl, rfl, rfl⟩

/-! ## Results and settings -/

theorem read (engine : String) (formula : Option String) (v : Numeral) (status : Status) :
    SameScopes s (s.read engine formula v status).1 := by
  unfold Session.read Session.finish
  cases s.settings.pooledNumeral v with
  | error f => exact .refl s
  | ok p => exact ⟨rfl, rfl, rfl⟩

theorem calculate (c : Calculator.Call) : SameScopes s (s.calculate c).1 := by
  unfold Session.calculate
  cases c.run s.settings with
  | error f => exact .refl s
  | ok p => exact ⟨rfl, rfl, rfl⟩

theorem onSettings (request : SettingsRequest) : SameScopes s (s.onSettings request).1 := by
  unfold Session.onSettings
  cases s.changeSettings request with
  | error f => exact .refl s
  | ok p => exact ⟨rfl, rfl, rfl⟩

theorem newPool (sort : PoolSort) : SameScopes s (s.newPool sort).1 := by
  unfold Session.newPool
  cases poolOfSort sort with
  | error f => exact .refl s
  | ok p => exact ⟨rfl, rfl, rfl⟩

theorem onPool (on : String) (request : PoolRequest) : SameScopes s (s.onPool on request).1 := by
  unfold Session.onPool
  split
  · exact .refl s
  · split
    · exact .refl s
    · rename_i ref _ p _
      cases request with
      | get x =>
        simp only [askPool]
        cases p.answer x with
        | error f => exact .refl s
        | ok q => exact ⟨rfl, rfl, rfl⟩
      | clear => exact ⟨rfl, rfl, rfl⟩
      | shown => exact .refl s
      | refused why => exact .refl s

/-! ## Chains with callables, groups and traces -/

theorem addChain? (c : Except Fault Closure.Chain) (notes : List Closure.Note) :
    SameScopes s (s.addChain? c notes).1 := by
  cases c with
  | error f => exact .refl s
  | ok c => exact ⟨rfl, rfl, rfl⟩

theorem beginChain (initial : Argument) : SameScopes s (s.beginChain initial).1 := by
  unfold Session.beginChain
  cases Closure.Chain.begin initial s.settings.tracing with
  | error f => exact .refl s
  | ok c => exact ⟨rfl, rfl, rfl⟩

theorem onChain (on : Option String) (request : ChainRequest) :
    SameScopes s (s.onChain on request).1 := by
  unfold Session.onChain
  split
  · exact .refl s
  · cases request with
    | join op operand scale => exact addChain? s _ _
    | change op scale => exact addChain? s _ _
    | result => exact read s _ _ _ _
    | refused why => exact .refl s

theorem compareChains (a b : String) : SameScopes s (s.compareChains a b).1 := by
  unfold Session.compareChains
  split <;> exact .refl s

theorem onGroup (on : String) (request : GroupRequest) : SameScopes s (s.onGroup on request).1 := by
  unfold Session.onGroup
  split
  · exact .refl s
  · split
    · exact .refl s
    · cases request with
      | join op operand scale => exact ⟨rfl, rfl, rfl⟩
      | act a => exact ⟨rfl, rfl, rfl⟩
      | shown => exact .refl s
      | refused why => exact .refl s

theorem onTrace (on : String) (request : TraceRequest) : SameScopes s (s.onTrace on request).1 := by
  unfold Session.onTrace
  split
  · exact .refl s
  · split
    · exact .refl s
    · rename_i t _
      cases writeTrace t request with
      | error f => exact .refl s
      | ok t => exact ⟨rfl, rfl, rfl⟩

/-! ## Requests to a scope -/

/-- Asking a scope for anything but a call leaves the scopes alone. -/
theorem askScope {i chain id : Nat} {c : Bracket.Chain} {request : ScopeRequest}
    (h : ∀ call, request ≠ .call call) : SameScopes s (s.askScope i chain id c request).1 := by
  cases request with
  | call call => exact absurd rfl (h call)
  | result =>
    simp only [Session.askScope]
    cases c.result id with
    | error f => exact .refl s
    | ok v => exact read s _ _ _ _
  | shown =>
    simp only [Session.askScope]
    cases c.view? id with
    | none => exact .refl s
    | some v => exact .refl s
  | refused why => exact .refl s

theorem onScope {on : Option String} {request : ScopeRequest} (h : ∀ call, request ≠ .call call) :
    SameScopes s (s.onScope on request).1 := by
  unfold Session.onScope
  split
  · exact .refl s
  · split
    · exact .refl s
    · split
      · exact .refl s
      · exact askScope s h

/-- Only beginning a chain and calling a scope can change the scopes. -/
theorem step {command : Command} (hbegin : ∀ initial, command ≠ .beginBracket initial)
    (hcall : ∀ on call, command ≠ .scope on (.call call)) : SameScopes s (s.step command).1 := by
  cases command with
  | beginBracket initial => exact absurd rfl (hbegin initial)
  | scope on request => exact onScope s fun call heq ↦ hcall on call (by rw [heq])
  | beginChain initial => exact beginChain s initial
  | newChain value formula => exact ⟨rfl, rfl, rfl⟩
  | chain on request => exact onChain s on request
  | compareChains a b => exact compareChains s a b
  | newGroup traced => exact ⟨rfl, rfl, rfl⟩
  | group on request => exact onGroup s on request
  | evaluate script traced => exact .refl s
  | newTrace initial => exact ⟨rfl, rfl, rfl⟩
  | trace on request => exact onTrace s on request
  | report engine formula result => exact .refl s
  | newPool sort => exact newPool s sort
  | pool on request => exact onPool s on request
  | setVariables changes => exact ⟨rfl, rfl, rfl⟩
  | settings request => exact onSettings s request
  | calculate c => exact calculate s c
  | refused why => exact .refl s

end SameScopes

end Session

end ChainedDecimal
