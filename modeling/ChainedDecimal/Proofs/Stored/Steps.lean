import ChainedDecimal.Proofs.Session.Failures
import ChainedDecimal.Proofs.Stored.Results
import ChainedDecimal.Session.Stored

/-!
# What a command does to a session of nodes

A command leaves the nodes alone, or begins a chain, or carries out a call that succeeds. A command
on a chain that fails leaves everything alone, since the action that it stands for has failed on the
memory that it was started on.
-/

namespace ChainedDecimal

namespace StoredSession

open ChainedDecimal.Bracket
open ChainedDecimal.Session (Command Outcome Reply ScopeRequest scopeName)

variable {s t : StoredSession} {i j : Address} {m : Memory} {n : Node} {call : Call} {f : Fault}
  {command : Command}

/-- The session after a call, or after the beginning of a chain. -/
def afterCall (s : StoredSession) (m : Memory) (j : Address) : StoredSession :=
  { s.withMemory m with latestScope := some j }

/-! ## Beginning a chain -/

theorem beginBracket_ok {x : Argument} {v : Option Decimal} (h : x.toDecimal? = .ok v) :
    s.beginBracket x = (s.afterCall (s.memory.started v) s.nodes.length,
      ⟨.ok (.scope (scopeName s.nodes.length)),
        (s.afterCall (s.memory.started v) s.nodes.length).scopeStates [s.nodes.length], []⟩) := by
  rw [beginBracket, Action.on_start, h]
  show (_, Reply.mk _ _ (s.memory.started v).events) = _
  rw [Memory.events_started]
  rfl

theorem beginBracket_error {x : Argument} (h : x.toDecimal? = .error f) :
    s.beginBracket x = (s, .of (.error f)) := by
  rw [beginBracket, Action.on_start, h]
  rfl

/-! ## Calling a scope -/

theorem callScope_ok (h : s.memory.Performs i call j m) :
    s.callScope i call = (s.afterCall m j,
      ⟨.ok (.scope (scopeName j)), (s.afterCall m j).scopeStates (if j = i then [i] else [i, j]),
        []⟩) := by
  rw [callScope, Action.on_call_eq_ok_iff.2 h]
  show (_, Reply.mk _ _ m.events) = _
  rw [h.events_eq]
  rfl

theorem callScope_error (h : (Action.call i call).on s.memory = (.error f, m)) :
    s.callScope i call = (s, ⟨.error f, s.scopeStates [i], []⟩) := by
  obtain ⟨e, he⟩ := Action.exists_on_call_eq_atomically i call s.memory
  rw [he] at h
  -- The failure was on the memory that the call was started on.
  rcases e with g | ⟨j, m'⟩
  · cases h
    rw [callScope, he]
    rfl
  · cases h

/-- A call on a scope fails, or it performs something. -/
theorem callScope_cases (s : StoredSession) (i : Address) (call : Call) :
    (∃ f, s.callScope i call = (s, ⟨.error f, s.scopeStates [i], []⟩)) ∨
      ∃ j m, s.memory.Performs i call j m := by
  rcases hon : (Action.call i call).on s.memory with ⟨f | j, m⟩
  · exact Or.inl ⟨f, callScope_error hon⟩
  · exact Or.inr ⟨j, m, Action.on_call_eq_ok_iff.1 hon⟩

/-! ## Reading a result -/

theorem readScope_of_none (h : s.nodes[i]? = none) :
    s.readScope i = (s, ⟨.error .unknownRequest, s.scopeStates [i], []⟩) := by
  have hon : (Action.result i).on s.memory = (.error .unknownRequest, s.memory) := by
    have hnode : (Action.node i).on s.memory = (.error .unknownRequest, s.memory) := by
      rw [Action.on_node?, show s.memory.nodes[i]? = none from h]
      rfl
    exact Action.on_bind_error (Action.on_bind_error hnode _) _
  rw [readScope, hon]
  rfl

theorem readScope_error (h : s.nodes[i]? = some n) (hresult : n.result = .error f) :
    s.readScope i = (s, ⟨.error f, s.scopeStates [i], []⟩) := by
  rw [readScope, Action.on_result h, hresult]
  rfl

/-- The events of reading a result are those of its formula. -/
def reports (s : StoredSession) (n : Node) (v : Decimal) : List Event :=
  ((s.memory.formula? n.formula).map fun t ↦
    Event.evaluated Session.bracketEngine t.render (.decimal v)).toList

theorem readScope_ok {v : Decimal} (h : s.nodes[i]? = some n) (hresult : n.result = .ok v) :
    s.readScope i =
      match s.others.settings.pooled v with
      | .error f => (s, ⟨.error f, s.scopeStates [i], s.reports n v⟩)
      | .ok (w, settings) =>
        let t := { s with others := { s.others with settings } }
        (t, ⟨.ok (.result (.finite w) t.others.installedEntries), t.scopeStates [i],
          s.reports n v⟩) := by
  rw [readScope, Action.on_result h, hresult]
  simp only [Action.on_pooled]
  have hsettings : (s.memory.reported n.formula v).settings = s.others.settings := rfl
  rw [hsettings]
  rcases s.others.settings.pooled v with f | ⟨w, settings⟩
  · rfl
  · rfl

/-! ## Any command -/

/-- What a command can do to the nodes, and what it answers then. -/
inductive NodeStep (s : StoredSession) : Command → Except Fault Outcome → StoredSession → Prop where
  /-- Nothing, if it is about something else or fails. -/
  | idle {command : Command} {outcome : Except Fault Outcome} {t : StoredSession}
      (nodes_eq : t.nodes = s.nodes)
      (failed : command.movesBrackets = true → ∃ f, outcome = .error f) :
      NodeStep s command outcome t
  /-- Begin a chain. -/
  | begun {x : Argument} {v : Option Decimal} (operand_ok : x.toDecimal? = .ok v) :
      NodeStep s (.beginBracket x) (.ok (.scope (scopeName s.nodes.length)))
        (s.afterCall (s.memory.started v) s.nodes.length)
  /-- Carry out a call. -/
  | called {on : Option String} {i j : Address} {m : Memory} {call : Call}
      (on_eq : s.scopePlace? on = some i) (performs : s.memory.Performs i call j m) :
      NodeStep s (.scope on (.call call)) (.ok (.scope (scopeName j))) (s.afterCall m j)

theorem nodes_readScope (s : StoredSession) (i : Address) :
    (s.readScope i).1.nodes = s.nodes := by
  rcases hn : s.nodes[i]? with _ | n
  · rw [readScope_of_none hn]
  rcases hresult : n.result with f | v
  · rw [readScope_error hn hresult]
  · rw [readScope_ok hn hresult]
    rcases s.others.settings.pooled v with f | ⟨w, settings⟩ <;> rfl

theorem nodeStep_onScope (s : StoredSession) (on : Option String) (request : ScopeRequest) :
    NodeStep s (.scope on request) (s.onScope on request).2.outcome (s.onScope on request).1 := by
  rw [onScope]
  rcases hon : s.scopePlace? on with _ | i
  · exact .idle rfl fun _ ↦ ⟨_, rfl⟩
  cases request with
  | call call =>
    rcases s.callScope_cases i call with ⟨f, heq⟩ | ⟨j, m, hperforms⟩
    · show NodeStep s _ (s.callScope i call).2.outcome (s.callScope i call).1
      rw [heq]
      exact .idle rfl fun _ ↦ ⟨f, rfl⟩
    · show NodeStep s _ (s.callScope i call).2.outcome (s.callScope i call).1
      rw [callScope_ok hperforms]
      exact .called hon hperforms
  | result => exact .idle (s.nodes_readScope i) fun hmoves ↦ absurd hmoves Bool.false_ne_true
  | shown =>
    refine .idle ?_ fun hmoves ↦ absurd hmoves Bool.false_ne_true
    show (s.askScope i .shown).1.nodes = s.nodes
    rw [askScope]
    cases s.view? i <;> rfl
  | refused why => exact .idle rfl fun hmoves ↦ absurd hmoves Bool.false_ne_true

theorem nodeStep (s : StoredSession) (command : Command) :
    NodeStep s command (s.step command).2.outcome (s.step command).1 := by
  cases command with
  | beginBracket x =>
    rcases hx : x.toDecimal? with f | v
    · rw [step, beginBracket_error hx]
      exact .idle rfl fun _ ↦ ⟨f, rfl⟩
    · rw [step, beginBracket_ok hx]
      exact .begun hx
  | scope on request => exact s.nodeStep_onScope on request
  | _ => exact .idle rfl fun hmoves ↦ absurd hmoves Bool.false_ne_true

/-- A command that is not addressed to bracketed chains is answered by the rest of the session. -/
theorem step_of_not_onBrackets (s : StoredSession) (h : command.onBrackets = false) :
    s.step command =
      ({ s with others := (s.others.step command).1 }, (s.others.step command).2) := by
  cases command with
  | beginBracket x => cases h
  | scope on request => cases h
  | _ => rfl

/-! ## Any run -/

theorem run_cons (s : StoredSession) (command : Command) (commands : List Command) :
    s.run (command :: commands) =
      (((s.step command).1.run commands).1,
        (s.step command).2 :: ((s.step command).1.run commands).2) := rfl

theorem run_append (s : StoredSession) (cs ds : List Command) :
    (s.run (cs ++ ds)).1 = ((s.run cs).1.run ds).1 := by
  induction cs generalizing s with
  | nil => rfl
  | cons c cs ih => exact ih (s.step c).1

end StoredSession

end ChainedDecimal
