import ChainedDecimal.Proofs.Session.Failures
import ChainedDecimal.Proofs.Stored.History

/-!
# Calls that fail leave the nodes as they are

A command on a bracketed chain that fails leaves the whole session as it was, although it stands for
writes to several nodes and to a formula, and may fail for reasons that are found on the way: a
closed or covered scope, an argument, a missing value or scale, a zero, or the limits of the
decimals. All of them are found before the first write. Nothing is reported either. So the failing
calls of a run might as well have been left out.

Reading a result is an exception: it reports the formula before it asks the pool, and a pool would
refuse a value beyond the limits. But no node has such a value if it was given none.
-/

namespace ChainedDecimal

namespace Bracket.Memory

/-- The values of all nodes fit. -/
def ValuesFit (m : Memory) : Prop := ∀ (a : Address) (n : Node) (v : Decimal),
  m.nodes[a]? = some n → n.value = some v → v.Fits

variable {m m' : Memory} {self a : Address} {call : Call}

theorem ValuesFit.started (h : m.ValuesFit) {x : Argument} {value : Option Decimal}
    (hx : x.Fits) (hvalue : x.toDecimal? = .ok value) : (m.started value).ValuesFit := by
  obtain ⟨formula, hnode⟩ := m.exists_getElem?_started value
  intro a n v hn hv
  rw [hnode] at hn
  split at hn
  · cases hn
    subst hv
    exact Argument.Satisfies.of_toDecimal? hx hvalue
  · exact h a n v hn hv

/-- A value that a call writes is the outcome of an operator, a value there was, or an operand. -/
theorem ValuesFit.performs (h : m.ValuesFit) (hs : m.Sound) (hcall : call.Fits)
    (hp : m.Performs self call a m') : m'.ValuesFit := by
  intro b n' u hn' hu
  cases hp with
  | binary exposed _ _ apply_ok =>
    rw [getElem?_rewritten exposed.node_eq] at hn'
    split at hn'
    · cases hn'
      cases hu
      exact BinaryOp.fits_of_apply apply_ok
    · exact h b n' u hn' hu
  | unary exposed _ apply_ok =>
    rw [getElem?_rewritten exposed.node_eq] at hn'
    split at hn'
    · cases hn'
      cases hu
      exact UnaryOp.fits_of_apply apply_ok
    · exact h b n' u hn' hu
  | openGroup exposed scale_ok operand_ok =>
    rw [getElem?_opened exposed.node_eq] at hn'
    split at hn'
    · cases hn'
      exact h _ _ u exposed.node_eq hu
    split at hn'
    · cases hn'
      subst hu
      exact Argument.Satisfies.of_toDecimal? hcall operand_ok
    · exact h b n' u hn' hu
  | close exposed parent_eq node_eq fold_ok =>
    have hlt := hs.parent_lt exposed.node_eq parent_eq
    rw [getElem?_closed exposed.node_eq node_eq (Nat.ne_of_lt hlt)] at hn'
    split at hn'
    · cases hn'
      exact h _ _ u exposed.node_eq hu
    split at hn'
    · cases hn'
      cases hu
      exact holds_of_foldGroup (fun _ hd ↦ hd) (fun v hv ↦ h _ _ v exposed.node_eq hv) fold_ok
    · exact h b n' u hn' hu

theorem ValuesFit.of_nodes_eq (h : m.ValuesFit) (heq : m'.nodes = m.nodes) : m'.ValuesFit := by
  rw [ValuesFit, heq]
  exact h

end Bracket.Memory

namespace StoredSession

open ChainedDecimal.Bracket
open ChainedDecimal.Session (Command Reply ScopeRequest failedOnBrackets failedOnBrackets_iff
  onBrackets_iff)

/-- Of a run the commands with their replies, without those that failed on bracketed chains. -/
def survivors (s : StoredSession) (cs : List Command) : List (Command × Reply) :=
  (cs.zip (s.run cs).2).filter fun p ↦ !failedOnBrackets p.1 p.2

/-- Failing calls on bracketed chains change nothing. -/
structure FailuresChangeNothing (s : StoredSession) : Prop where
  /-- The session afterwards is the one before, with all nodes, formulas and pools, and nothing is
  reported. -/
  step : ∀ {c : Command}, failedOnBrackets c (s.step c).2 = true →
    (s.step c).1 = s ∧ (s.step c).2.events = []
  /-- A run without the calls that fail in it leads to the same session, and the commands that are
  left have the same replies. -/
  run : ∀ cs : List Command,
    s.run ((s.survivors cs).map Prod.fst) = ((s.run cs).1, (s.survivors cs).map Prod.snd)
  /-- Nor is any report missing. -/
  events : ∀ cs : List Command, (∀ c ∈ cs, c.Fits) →
    (s.survivors cs).flatMap (·.2.events) = (s.run cs).2.flatMap Reply.events

variable {s : StoredSession} {i : Address} {f : Fault} {command : Command}

/-! ## One command -/

theorem readScope_of_error (herr : (s.readScope i).2.outcome = .error f) :
    (s.readScope i).1 = s ∧ (s.memory.ValuesFit → (s.readScope i).2.events = []) := by
  rcases hn : s.nodes[i]? with _ | n
  · rw [readScope_of_none hn]
    exact ⟨rfl, fun _ ↦ rfl⟩
  rcases hresult : n.result with g | v
  · rw [readScope_error hn hresult]
    exact ⟨rfl, fun _ ↦ rfl⟩
  rw [readScope_ok hn hresult] at herr ⊢
  rcases hpool : s.others.settings.pooled v with g | ⟨w, settings⟩
  · refine ⟨rfl, fun hfit ↦ ?_⟩
    -- The pool has an answer, for the value fits.
    obtain ⟨e, q, hget⟩ := Pool.exists_get (hfit i n v hn (Node.value_of_result hresult))
      s.others.settings.installedPool
    rw [Settings.pooled, hget] at hpool
    cases hpool
  · rw [hpool] at herr
    cases herr

theorem askScope_of_error {request : ScopeRequest}
    (herr : (s.askScope i request).2.outcome = .error f) :
    (s.askScope i request).1 = s ∧
      (s.memory.ValuesFit → (s.askScope i request).2.events = []) := by
  cases request with
  | call call =>
    rw [askScope] at herr ⊢
    rcases s.callScope_cases i call with ⟨g, heq⟩ | ⟨j, m, hperforms⟩
    · rw [heq]
      exact ⟨rfl, fun _ ↦ rfl⟩
    · rw [callScope_ok hperforms] at herr
      cases herr
  | result => exact readScope_of_error herr
  | shown =>
    rw [askScope]
    cases s.view? i <;> exact ⟨rfl, fun _ ↦ rfl⟩
  | refused why => exact ⟨rfl, fun _ ↦ rfl⟩

/-- A command on bracketed chains that fails changes nothing. -/
theorem step_of_failed (hfail : failedOnBrackets command (s.step command).2 = true) :
    (s.step command).1 = s ∧ (s.memory.ValuesFit → (s.step command).2.events = []) := by
  obtain ⟨hon, f, herr⟩ := failedOnBrackets_iff.1 hfail
  rcases onBrackets_iff.1 hon with ⟨x, rfl⟩ | ⟨on, request, rfl⟩
  · rw [StoredSession.step] at herr ⊢
    rcases hx : x.toDecimal? with g | v
    · rw [beginBracket_error hx]
      exact ⟨rfl, fun _ ↦ rfl⟩
    · rw [beginBracket_ok hx] at herr
      cases herr
  · rw [StoredSession.step, onScope] at herr ⊢
    rcases hplace : s.scopePlace? on with _ | i
    · exact ⟨rfl, fun _ ↦ rfl⟩
    · rw [hplace] at herr
      exact askScope_of_error herr

/-- Values that fit lead to values that fit. -/
theorem valuesFit_step (h : s.memory.Sound) (hs : s.memory.ValuesFit) (hfits : command.Fits) :
    (s.step command).1.memory.ValuesFit := by
  have hst := s.nodeStep command
  generalize (s.step command).2.outcome = outcome at hst
  generalize (s.step command).1 = t at hst ⊢
  cases hst with
  | idle nodes_eq => exact hs.of_nodes_eq nodes_eq
  | begun operand_ok => exact (hs.started hfits operand_ok).of_nodes_eq rfl
  | called _ performs => exact (hs.performs h hfits performs).of_nodes_eq rfl

/-! ## Any run -/

theorem valuesFit_run (h : s.memory.Sound) (hs : s.memory.ValuesFit) {commands : List Command}
    (hfits : ∀ c ∈ commands, c.Fits) : (s.run commands).1.memory.ValuesFit := by
  induction commands generalizing s with
  | nil => exact hs
  | cons c cs ih =>
    have hstep := valuesFit_step h hs (hfits c List.mem_cons_self)
    exact ih (sound_step h c) hstep fun d hd ↦ hfits d (List.mem_cons_of_mem c hd)

theorem survivors_cons (s : StoredSession) (c : Command) (cs : List Command) :
    s.survivors (c :: cs) =
      (if failedOnBrackets c (s.step c).2 then [] else [(c, (s.step c).2)]) ++
        (s.step c).1.survivors cs := by
  rw [survivors, run_cons, List.zip_cons_cons, List.filter_cons]
  cases failedOnBrackets c (s.step c).2 <;> rfl

/-- Without the calls that fail a run is the same. -/
theorem run_survivors (s : StoredSession) (cs : List Command) :
    s.run ((s.survivors cs).map Prod.fst) = ((s.run cs).1, (s.survivors cs).map Prod.snd) := by
  induction cs generalizing s with
  | nil => rfl
  | cons c cs ih =>
    have hrest := ih (s.step c).1
    rw [survivors_cons, run_cons]
    by_cases hfail : failedOnBrackets c (s.step c).2 = true
    · rw [(step_of_failed hfail).1] at hrest ⊢
      rw [if_pos hfail]
      exact hrest
    · rw [if_neg hfail]
      simp only [List.singleton_append, List.map_cons, run_cons]
      rw [hrest]

theorem events_survivors (h : s.memory.Sound) (hs : s.memory.ValuesFit) {cs : List Command}
    (hfits : ∀ c ∈ cs, c.Fits) :
    (s.survivors cs).flatMap (·.2.events) = (s.run cs).2.flatMap Reply.events := by
  induction cs generalizing s with
  | nil => rfl
  | cons c cs ih =>
    have hstep := valuesFit_step h hs (hfits c List.mem_cons_self)
    have hrest := ih (sound_step h c) hstep fun d hd ↦ hfits d (List.mem_cons_of_mem c hd)
    rw [survivors_cons, run_cons, List.flatMap_append, hrest, List.flatMap_cons]
    by_cases hfail : failedOnBrackets c (s.step c).2 = true
    · rw [if_pos hfail, (step_of_failed hfail).2 hs]
      rfl
    · rw [if_neg hfail]
      simp

/-- **Calls that fail change nothing**, in every session that any commands lead to. -/
theorem failuresChangeNothing_of_run {before : List Command} (hfits : ∀ c ∈ before, c.Fits) :
    (initial.run before).1.FailuresChangeNothing := by
  have hsound := sound_run sound_initial before
  have hvalues : (initial.run before).1.memory.ValuesFit :=
    valuesFit_run sound_initial (by simp [Memory.ValuesFit, initial, memory]) hfits
  constructor
  · intro c hfail
    obtain ⟨hsame, hevents⟩ := step_of_failed hfail
    exact ⟨hsame, hevents hvalues⟩
  · exact run_survivors _
  · exact fun cs ↦ events_survivors hsound hvalues

/-- A traced chain with a division that is still open, and a zero to divide by. -/
def openDivision : List Command :=
  [.settings (.setTracing true), .beginBracket (.decimal ⟨false, 10, -1⟩),
    .scope none (.call (.openGroup (.binary .divide) (.int 0) (.int 2)))]

theorem failuresChangeNothing_openDivision :
    (∀ c ∈ openDivision, c.Fits) ∧ (initial.run openDivision).1.FailuresChangeNothing := by
  have hfits : ∀ c ∈ openDivision, c.Fits := by decide
  exact ⟨hfits, failuresChangeNothing_of_run hfits⟩

/-- The division by zero happens when the parenthesis is closed, and is one of the failures meant.
-/
example : failedOnBrackets (.scope none (.call .close))
    ((initial.run openDivision).1.step (.scope none (.call .close))).2 = true := by
  decide

end StoredSession

end ChainedDecimal
