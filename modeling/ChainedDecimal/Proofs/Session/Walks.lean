import ChainedDecimal.Proofs.Bracket.Walk
import ChainedDecimal.Proofs.Session.Answers
import ChainedDecimal.Proofs.Session.Calls

/-!
# Walks in a session

Calls that follow each other on one chain do in a session what `walk` does with the chain.
`Followed` says so: the values and the fault that the replies show are those of the walk, and
nothing but the chain and its scopes has changed.
-/

namespace ChainedDecimal

namespace Session

open ChainedDecimal.Bracket

/-- The commands that carry out calls, the first on the scope of a name, and each other one on the
scope that the one before led to. -/
def onward (on : Option String) : List Call → List Command
  | [] => []
  | call :: calls => .scope on (.call call) :: onward none calls

variable {s t : Session} {on : Option String} {i j k : Nat} {c c' : Chain}

/-- Two sessions differ in nothing but the chain at a place and its scopes. -/
structure Beside (s t : Session) (k : Nat) : Prop where
  /-- The other chains are the same. -/
  others_eq : ∀ l, l ≠ k → t.brackets[l]? = s.brackets[l]?
  /-- The new scopes belong to the chain. -/
  scopes_eq : ∃ new, t.scopes = s.scopes ++ new ∧ ∀ p ∈ new, p.1 = k
  /-- Everything else is the same. -/
  rest_eq : t = { s with
    brackets := t.brackets
    scopes := t.scopes
    latestScope := t.latestScope }

namespace Beside

protected theorem refl (s : Session) (k : Nat) : Beside s s k :=
  ⟨fun _ _ ↦ rfl, ⟨[], by simp⟩, rfl⟩

protected theorem trans {r : Session} (h : Beside r s k) (h' : Beside s t k) : Beside r t k := by
  obtain ⟨new, hnew, hk⟩ := h.scopes_eq
  obtain ⟨new', hnew', hk'⟩ := h'.scopes_eq
  refine ⟨fun l hl ↦ (h'.others_eq l hl).trans (h.others_eq l hl), ⟨new ++ new', ?_, ?_⟩, ?_⟩
  · rw [hnew', hnew, List.append_assoc]
  · intro p hp
    rcases List.mem_append.1 hp with hp | hp
    · exact hk p hp
    · exact hk' p hp
  · rw [h'.rest_eq, h.rest_eq]

theorem afterCall (s : Session) (k : Nat) (c c' : Chain) (j : Nat) :
    Beside s (s.afterCall k c c' j) k := by
  refine ⟨fun l hl ↦ List.getElem?_set_ne (Ne.symm hl), ?_, rfl⟩
  by_cases hsize : c.size < c'.size
  · exact ⟨[(k, c'.exposed.id)], by simp [Session.afterCall, withBracket, hsize], by simp⟩
  · exact ⟨[], by simp [Session.afterCall, withBracket, hsize], by simp⟩

end Beside

/-- An attempt at calls on the chain at a place did what a walk does. -/
structure Followed (s : Session) (k : Nat) (w : Chain.Walk) (a : Attempt) : Prop where
  /-- It failed as the walk did, or succeeded. -/
  fault_eq : a.fault = w.fault
  /-- The replies show the values of the walk. -/
  values_eq : a.replies.flatMap Reply.values = w.values
  /-- Nothing was reported. -/
  events_eq : ∀ r ∈ a.replies, r.events = []
  /-- The chain is where the walk ended. -/
  chain_eq : a.session.brackets[k]? = some w.last
  /-- Nothing else has changed. -/
  beside : Beside s a.session k
  /-- The last reply, if all succeeded, names the scope that is exposed now. -/
  returned : w.fault = none → ∀ r ∈ a.replies.getLast?, ∃ j,
    r.outcome = .ok (.scope (scopeName j)) ∧ a.session.scopePlace? none = some j ∧
      a.session.scopes[j]? = some (k, w.last.exposed.id)

theorem view?_exposed (c : Chain) : c.view? c.exposed.id = some c.exposedView := by
  simp [Chain.view?, Chain.views]

/-- The last state that the reply to a call shows is that of the scope the call led to. -/
theorem values_of_call (hc : s.brackets[k]? = some c)
    (hj : (s.withBracket k c c').scopes[j]? = some (k, c'.exposed.id)) (name : String) :
    Reply.values ⟨.ok (.scope name),
      (s.withBracket k c c').scopeStates (if j = i then [i] else [i, j]), []⟩ =
        c'.exposed.value.toList := by
  have hchain : (s.withBracket k c c').brackets[k]? = some c' :=
    List.getElem?_set_self (List.getElem?_eq_some_iff.1 hc).1
  have hshown : ((s.withBracket k c c').scopeState? j).map (·.view.value) =
      some c'.exposed.value := by
    simp [scopeState?, hj, hchain, view?_exposed]
    rfl
  obtain ⟨st, hst, hvalue⟩ := Option.map_eq_some_iff.1 hshown
  simp only [Reply.values, scopeStates]
  by_cases hji : j = i
  · subst hji
    simp [hst, hvalue]
  · cases hi : (s.withBracket k c c').scopeState? i with
    | none => simp [hji, hi, hst, hvalue]
    | some st' => simp [hji, hi, hst, hvalue]

/-- **Attempts follow walks.** -/
theorem Numbered.followed (h : s.Numbered) (hs : s.Holds on k c) (calls : List Call) :
    s.Followed k (c.walk calls) (s.attempt (onward on calls)) := by
  induction calls generalizing s on c with
  | nil =>
    refine ⟨rfl, rfl, ?_, hs.chain_eq, .refl s k, ?_⟩
    · intro r hr
      cases hr
    · intro _ r hr
      cases hr
  | cons call calls ih =>
    cases hact : c.act call with
    | error f =>
      obtain ⟨i, -, hstep⟩ := hs.step_error hact
      have hout : (s.step (.scope on (.call call))).2.outcome = .error f := by rw [hstep]
      rw [onward, attempt_cons_error hout, Chain.walk_cons_error hact, hstep]
      refine ⟨rfl, rfl, ?_, hs.chain_eq, .refl s k, ?_⟩
      · intro r hr
        rw [List.mem_singleton.1 hr]
      · intro hnone
        cases hnone
    | ok c' =>
      obtain ⟨i, j, -, hj, hstep⟩ := h.step_of_holds hs hact
      have hout : (s.step (.scope on (.call call))).2.outcome = .ok (.scope (scopeName j)) := by
        rw [hstep]
      have hnumbered := h.step (.scope on (.call call))
      rw [onward, attempt_cons_ok hout, Chain.walk_cons_ok hact]
      rw [hstep] at hnumbered ⊢
      have hrest := ih hnumbered (holds_afterCall hs.chain_eq hj)
      have hvalue := values_of_call (i := i) hs.chain_eq hj (scopeName j)
      refine ⟨hrest.fault_eq, ?_, ?_, hrest.chain_eq, (Beside.afterCall s k c c' j).trans
        hrest.beside, ?_⟩
      · rw [List.flatMap_cons, hvalue]
        exact congrArg _ hrest.values_eq
      · intro r hr
        rcases List.mem_cons.1 hr with rfl | hr
        · rfl
        · exact hrest.events_eq r hr
      · intro hnone r hr
        -- The last reply is that of this call if there are no others, or else the last of theirs.
        cases calls with
        | nil =>
          cases hr
          exact ⟨j, rfl, rfl, hj⟩
        | cons call' calls =>
          refine hrest.returned hnone r ?_
          obtain ⟨r', rs, hreplies⟩ := exists_replies_cons (s.afterCall k c c' j)
            (.scope none (.call call')) (onward none calls)
          rw [onward, hreplies] at hr ⊢
          rwa [List.getLast?_cons_cons] at hr

/-- Calls on the latest scope lead to a latest scope. -/
theorem Numbered.holds_attempt (h : s.Numbered) (hs : s.Holds none k c) (calls : List Call) :
    (s.attempt (onward none calls)).session.Holds none k (c.walk calls).last := by
  induction calls generalizing s c with
  | nil => exact hs
  | cons call calls ih =>
    cases hact : c.act call with
    | error f =>
      obtain ⟨i, -, hstep⟩ := hs.step_error hact
      have hout : (s.step (.scope none (.call call))).2.outcome = .error f := by rw [hstep]
      rw [onward, attempt_cons_error hout, Chain.walk_cons_error hact, hstep]
      exact hs
    | ok c' =>
      obtain ⟨i, j, -, hj, hstep⟩ := h.step_of_holds hs hact
      have hout : (s.step (.scope none (.call call))).2.outcome = .ok (.scope (scopeName j)) := by
        rw [hstep]
      have hnumbered := h.step (.scope none (.call call))
      rw [onward, attempt_cons_ok hout, Chain.walk_cons_ok hact]
      rw [hstep] at hnumbered ⊢
      exact ih hnumbered (holds_afterCall hs.chain_eq hj)

/-- The result of a chain all of whose groups are closed is the value of the exposed scope. -/
theorem Holds.reads (hs : s.Holds none k c) (henc : c.enclosing = []) :
    s.Reads bracketEngine c.formula? (.scope none .result) c.exposed.value := by
  obtain ⟨i, hon, hi⟩ := hs.place_eq
  have hresult : c.result c.exposed.id = Fault.require .chainWithoutValue c.exposed.value := by
    rw [Chain.result, Chain.place_exposed, henc]
  have hstep : s.step (.scope none .result) = _ := step_scope_of_get hon hi hs.chain_eq
  rw [askScope, hresult] at hstep
  cases hv : c.exposed.value with
  | none =>
    rw [hv] at hstep
    exact ⟨_, hstep⟩
  | some v =>
    rw [hv] at hstep
    exact ⟨_, hstep⟩

end Session

end ChainedDecimal
