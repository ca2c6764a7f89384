import ChainedDecimal.Proofs.Session.Attempts
import ChainedDecimal.Proofs.Shared.Script

/-!
# Whole formulas

A whole formula is begun, carried out step by step, and read. What its replies come to depends on
two things only, the value that it means and the settings that it meets: the value is passed through
the pool that is installed, and reported with the formula if that was traced.

This holds for both kinds of chains. `Begun` is what has to be known of a formula before its result
is read, and `Answers` is what follows from it.
-/

namespace ChainedDecimal

namespace Session

open ChainedDecimal.Bracket

/-! ## What replies show -/

/-- The values that a reply shows: that of the scope to go on with, or else those on the way through
the callables that were run, and that of the new chain. -/
def Reply.values (r : Reply) : List Decimal :=
  (match r.status with
    | .notes ns => ns.filterMap Closure.Note.value?
    | _ => []) ++
  match r.outcome, r.status with
  | .ok (.scope _), .scopes states => (states.getLast?.bind (·.view.value)).toList
  | .ok (.chain _ ⟨.finite v, _⟩), _ => [v]
  | _, _ => []

variable {s t : Session}

theorem values_step_scope_result (s : Session) (on : Option String) :
    (s.step (.scope on .result)).2.values = [] := by
  rw [step, onScope]
  split
  · rfl
  · split
    · rfl
    · split
      · rfl
      · rw [askScope]
        split
        · rfl
        · rw [read]
          split <;> rfl

theorem values_step_chain_result (s : Session) (on : Option String) :
    (s.step (.chain on .result)).2.values = [] := by
  rw [step, onChain]
  split
  · rfl
  · rw [askChain, read]
    split <;> rfl

/-! ## Answers -/

/-- The outcome of reading the result of a formula that means this. -/
def finalOutcome (s : Session) : Except Fault (Option Decimal) → Except Fault Outcome
  | .error e => .error e
  | .ok none => .error .chainWithoutValue
  | .ok (some v) =>
    (s.settings.pooledNumeral (.finite v)).map fun p ↦ .result p.1 p.2.installedPool.size?

/-- The settings after that: the value has passed through the pool. -/
def finalSettings (s : Session) : Except Fault (Option Decimal) → Settings
  | .ok (some v) =>
    match s.settings.pooledNumeral (.finite v) with
    | .error _ => s.settings
    | .ok p => p.2
  | _ => s.settings

/-- What is reported of it. -/
def finalEvents (engine : String) (formula : Option String) :
    Except Fault (Option Decimal) → List Event
  | .ok (some v) => evaluated engine formula (.finite v)
  | _ => []

/-- An attempt at a whole formula, from its beginning to its result, gave what the formula means. -/
structure Answers (s : Session) (engine : String) (formula : Option String)
    (meaning : Except Fault (Option Decimal)) (a : Attempt) : Prop where
  /-- The last reply tells the result, or the fault. -/
  outcome_eq : ∃ r ∈ a.replies.getLast?, r.outcome = s.finalOutcome meaning
  /-- It is the only one that can tell of a fault. -/
  fault_eq : a.fault =
    match s.finalOutcome meaning with
    | .error f => some f
    | .ok _ => none
  /-- Of the settings only the pool has changed, and only by the result. -/
  settings_eq : a.session.settings = s.finalSettings meaning
  /-- Nothing is reported but the formula, when the result is read. -/
  events_eq : a.replies.flatMap Reply.events = finalEvents engine formula meaning

/-! ## Before the result is read -/

/-- The command `last` reads this value as a result. -/
def Reads (s : Session) (engine : String) (formula : Option String) (last : Command) :
    Option Decimal → Prop
  | none => ∃ status, s.step last = (s, ⟨.error .chainWithoutValue, status, []⟩)
  | some v => ∃ status, s.step last = s.read engine formula (.finite v) status

/-- A formula was begun and its steps were carried out, and what is left to do is to read the
result. -/
structure Begun (s : Session) (engine : String) (formula : Option String) (last : Command)
    (initial : Argument) (f : Steps) (a : Attempt) : Prop where
  /-- The settings are the same. -/
  settings_eq : a.session.settings = s.settings
  /-- Nothing was reported. -/
  events_eq : ∀ r ∈ a.replies, r.events = []
  /-- The replies behind the first show the values on the way. -/
  values_eq : a.replies.tail.flatMap Reply.values =
    match initial.toDecimal? with
    | .error _ => []
    | .ok first => f.trail first
  /-- It failed as the formula does, or led to where the value of the formula can be read. -/
  end_eq :
    match initial.toDecimal?.bind f.eval with
    | .error e => a.fault = some e
    | .ok x => a.fault = none ∧ a.session.Reads engine formula last x

variable {engine : String} {formula : Option String} {command last : Command}
  {commands : List Command} {initial : Argument} {f : Steps}

/-- The first operand of a formula may be refused. -/
theorem begun_of_refused {e : Fault} (hfirst : initial.toDecimal? = .error e)
    (hstep : s.step command = (s, .of (.error e))) :
    s.Begun engine formula last initial f (s.attempt (command :: commands)) := by
  have hout : (s.step command).2.outcome = .error e := by rw [hstep]; rfl
  rw [attempt_cons_error hout, hstep]
  constructor
  · rfl
  · intro r hr
    rw [List.mem_singleton.1 hr]
    rfl
  · rw [hfirst]
    rfl
  · rw [hfirst]
    rfl

/-- Otherwise the steps follow, from a session with the same settings. -/
theorem begun_of_accepted {first : Option Decimal} {o : Outcome} {status : Status}
    (hend :
      match f.eval first with
      | .error e => (t.attempt commands).fault = some e
      | .ok x => (t.attempt commands).fault = none ∧
        (t.attempt commands).session.Reads engine formula last x)
    (hfirst : initial.toDecimal? = .ok first) (hstep : s.step command = (t, ⟨.ok o, status, []⟩))
    (hsettings : (t.attempt commands).session.settings = s.settings)
    (hevents : ∀ r ∈ (t.attempt commands).replies, r.events = [])
    (hvalues : (t.attempt commands).replies.flatMap Reply.values = f.trail first) :
    s.Begun engine formula last initial f (s.attempt (command :: commands)) := by
  have hout : (s.step command).2.outcome = .ok o := by rw [hstep]
  rw [attempt_cons_ok hout, hstep]
  constructor
  · exact hsettings
  · intro r hr
    rcases List.mem_cons.1 hr with rfl | hr
    · rfl
    · exact hevents r hr
  · rw [hfirst]
    exact hvalues
  · rw [hfirst]
    exact hend

/-- Reading the result of a formula answers what it means. -/
theorem Begun.answers (h : s.Begun engine formula last initial f (s.attempt commands)) :
    s.Answers engine formula (initial.toDecimal?.bind f.eval)
      (s.attempt (commands ++ [last])) := by
  have hquiet := List.flatMap_eq_nil_iff.2 h.events_eq
  have hsettings := h.settings_eq
  have hend := h.end_eq
  cases heval : initial.toDecimal?.bind f.eval with
  | error e =>
    rw [heval] at hend
    rw [attempt_append_of_fault hend]
    exact ⟨exists_getLast_of_fault hend, hend, hsettings, hquiet⟩
  | ok x =>
    rw [heval] at hend
    obtain ⟨hfault, hreads⟩ := hend
    rw [attempt_concat_of_ok hfault]
    cases x with
    | none =>
      obtain ⟨status, hstep⟩ := hreads
      rw [hstep]
      refine ⟨⟨_, List.getLast?_concat .., rfl⟩, rfl, hsettings, ?_⟩
      rw [List.flatMap_append, hquiet]
      rfl
    | some v =>
      obtain ⟨status, hstep⟩ := hreads
      rw [hstep, read, finish, hsettings]
      constructor
      · refine ⟨_, List.getLast?_concat .., ?_⟩
        rw [finalOutcome]
        cases s.settings.pooledNumeral (.finite v) <;> rfl
      · rw [finalOutcome]
        cases s.settings.pooledNumeral (.finite v) <;> rfl
      · rw [finalSettings]
        cases s.settings.pooledNumeral (.finite v) with
        | error f => exact hsettings
        | ok p => rfl
      · rw [List.flatMap_append, hquiet]
        cases s.settings.pooledNumeral (.finite v) <;> simp [finalEvents, Except.map]

/-- Reading the result shows no more values. -/
theorem Begun.values_concat
    (h : s.Begun engine formula last initial f (s.attempt (command :: commands)))
    (hlast : ∀ t : Session, (t.step last).2.values = []) :
    (s.attempt (command :: commands ++ [last])).replies.tail.flatMap Reply.values =
      match initial.toDecimal? with
      | .error _ => []
      | .ok first => f.trail first := by
  rw [← h.values_eq]
  cases hfault : (s.attempt (command :: commands)).fault with
  | some e => rw [attempt_append_of_fault hfault]
  | none =>
    obtain ⟨r, rs, hreplies⟩ := exists_replies_cons s command commands
    rw [attempt_concat_of_ok hfault, hreplies, List.cons_append, List.tail_cons, List.tail_cons,
      List.flatMap_append, List.flatMap_singleton, hlast, List.append_nil]

end Session

end ChainedDecimal
