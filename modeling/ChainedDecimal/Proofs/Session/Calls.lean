import ChainedDecimal.Proofs.Bracket.Faults
import ChainedDecimal.Proofs.Session.Links

/-!
# Calls and results in a session

A request to a scope is answered by its chain: a call succeeds in the session exactly if it does on
the chain, and fails with the same fault. `Holds` says that the latest scope is the exposed one of a
given chain, which is all that a sequence of calls without names depends on.
-/

namespace ChainedDecimal

namespace Session

open ChainedDecimal.Bracket

variable {s t : Session} {on : Option String} {i k id : Nat} {c c' : Chain} {call : Call}

theorem step_scope_of_get {request : ScopeRequest} (hon : s.scopePlace? on = some i)
    (hi : s.scopes[i]? = some (k, id)) (hc : s.brackets[k]? = some c) :
    s.step (.scope on request) = s.askScope i k id c request :=
  onScope_of_get hon hi hc

/-- A call that the chain refuses changes nothing, and its fault is reported. -/
theorem step_call_error (hon : s.scopePlace? on = some i) (hi : s.scopes[i]? = some (k, id))
    (hc : s.brackets[k]? = some c) {f : Fault} (hcall : c.call id call = .error f) :
    s.step (.scope on (.call call)) = (s, ⟨.error f, s.scopeStates [i], []⟩) := by
  rw [step_scope_of_get hon hi hc]
  exact callScope_error hcall

/-- A call that the chain carries out leads to the next state of the chain, and to the scope that is
exposed there. -/
theorem Numbered.step_call_ok (h : s.Numbered) (hon : s.scopePlace? on = some i)
    (hi : s.scopes[i]? = some (k, id)) (hc : s.brackets[k]? = some c)
    (hcall : c.call id call = .ok c') :
    ∃ j, (s.withBracket k c c').scopes[j]? = some (k, c'.exposed.id) ∧
      s.step (.scope on (.call call)) = (s.afterCall k c c' j,
        ⟨.ok (.scope (scopeName j)),
          (s.withBracket k c c').scopeStates (if j = i then [i] else [i, j]), []⟩) := by
  obtain ⟨j, hj, heq⟩ := h.callScope_ok (i := i) hc hcall
  refine ⟨j, hj, ?_⟩
  rw [step_scope_of_get hon hi hc, askScope, heq]

/-- A call that is answered by success was carried out by the exposed scope of some chain. -/
theorem Numbered.exists_of_step_call (h : s.Numbered)
    (hok : (s.step (.scope on (.call call))).2.outcome.isOk = true) :
    ∃ i k c c' j, s.scopePlace? on = some i ∧ s.scopes[i]? = some (k, c.exposed.id) ∧
      s.brackets[k]? = some c ∧ Chain.Move c call c' ∧
      (s.step (.scope on (.call call))).1 = s.afterCall k c c' j ∧
      (s.afterCall k c c' j).scopes[j]? = some (k, c'.exposed.id) ∧
      (s.step (.scope on (.call call))).2.outcome = .ok (.scope (scopeName j)) := by
  have hst := h.bracketStep (.scope on (.call call))
  generalize (s.step (.scope on (.call call))).2.outcome = outcome at hst hok ⊢
  generalize (s.step (.scope on (.call call))).1 = t at hst ⊢
  cases hst with
  | idle _ failed =>
    obtain ⟨f, rfl⟩ := failed rfl
    cases hok
  | called on_eq scope_eq chain_eq move place_eq =>
    exact ⟨_, _, _, _, _, on_eq, scope_eq, chain_eq, move, rfl, place_eq, rfl⟩

theorem Numbered.isMalformed_step_call (h : s.Numbered) (hon : s.scopePlace? on = some i)
    (hi : s.scopes[i]? = some (k, id)) (hc : s.brackets[k]? = some c) :
    IsMalformed (s.step (.scope on (.call call))).2.outcome ↔ IsMalformed (c.call id call) := by
  cases hcall : c.call id call with
  | error f =>
    rw [step_call_error hon hi hc hcall, isMalformed_error, isMalformed_error]
  | ok c' =>
    obtain ⟨j, -, hstep⟩ := h.step_call_ok hon hi hc hcall
    rw [hstep]
    exact iff_of_false (not_isMalformed_ok _) (not_isMalformed_ok _)

/-- The pool that a result passes through has no part in whether it is malformed. -/
theorem isMalformed_step_result (hon : s.scopePlace? on = some i)
    (hi : s.scopes[i]? = some (k, id)) (hc : s.brackets[k]? = some c) :
    IsMalformed (s.step (.scope on .result)).2.outcome ↔ IsMalformed (c.result id) := by
  rw [step_scope_of_get hon hi hc, askScope]
  cases hresult : c.result id with
  | error f =>
    rw [isMalformed_error, isMalformed_error]
  | ok v =>
    have hfinish : ¬IsMalformed (s.finish (.finite v)) := by
      rw [finish, isMalformed_map, Settings.pooledNumeral_finite, isMalformed_map]
      rw [Settings.pooled, isMalformed_map]
      exact Pool.not_isMalformed_get _ v
    refine iff_of_false ?_ (not_isMalformed_ok _)
    simp only [read]
    cases hfin : s.finish (.finite v) with
    | error f =>
      rw [hfin] at hfinish
      exact fun hmal ↦ hfinish (isMalformed_error.2 (isMalformed_error.1 hmal))
    | ok p => exact not_isMalformed_ok _

/-! ## The exposed scope of a chain -/

/-- What is meant by a name, or by its absence, is the exposed scope of the chain at a place. -/
structure Holds (s : Session) (on : Option String) (k : Nat) (c : Chain) : Prop where
  /-- The chain is there. -/
  chain_eq : s.brackets[k]? = some c
  /-- Its exposed scope is meant. -/
  place_eq : ∃ i, s.scopePlace? on = some i ∧ s.scopes[i]? = some (k, c.exposed.id)

theorem holds_withNewBracket (s : Session) (c : Chain) :
    (s.withNewBracket c).Holds none s.brackets.length c := by
  refine ⟨?_, s.scopes.length, rfl, ?_⟩
  · simp [withNewBracket]
  · simp [withNewBracket]

theorem holds_afterCall {j : Nat} (hc : s.brackets[k]? = some c)
    (hj : (s.withBracket k c c').scopes[j]? = some (k, c'.exposed.id)) :
    (s.afterCall k c c' j).Holds none k c' :=
  ⟨brackets_afterCall hc, j, rfl, hj⟩

theorem Holds.step_error (hs : s.Holds on k c) {f : Fault} (hact : c.act call = .error f) :
    ∃ i, s.scopePlace? on = some i ∧
      s.step (.scope on (.call call)) = (s, ⟨.error f, s.scopeStates [i], []⟩) := by
  obtain ⟨i, hon, hi⟩ := hs.place_eq
  have hcall : c.call c.exposed.id call = .error f := by rw [Chain.call_exposed, hact]
  exact ⟨i, hon, step_call_error hon hi hs.chain_eq hcall⟩

theorem Numbered.step_of_holds (h : s.Numbered) (hs : s.Holds on k c)
    (hact : c.act call = .ok c') :
    ∃ i j, s.scopePlace? on = some i ∧
      (s.withBracket k c c').scopes[j]? = some (k, c'.exposed.id) ∧
      s.step (.scope on (.call call)) = (s.afterCall k c c' j,
        ⟨.ok (.scope (scopeName j)),
          (s.withBracket k c c').scopeStates (if j = i then [i] else [i, j]), []⟩) := by
  obtain ⟨i, hon, hi⟩ := hs.place_eq
  have hcall : c.call c.exposed.id call = .ok c' := by rw [Chain.call_exposed, hact]
  obtain ⟨j, hj, hstep⟩ := h.step_call_ok hon hi hs.chain_eq hcall
  exact ⟨i, j, hon, hj, hstep⟩

end Session

end ChainedDecimal
