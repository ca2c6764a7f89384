import ChainedDecimal.Proofs.Session.Callables
import ChainedDecimal.Proofs.Session.Meaning

/-!
# Parentheses and callables agree

A formula that both kinds of chains can carry out is written with parentheses in one session, and
with callables in another that has the same settings. Both pass through the same values, fail with
the same fault, and give the same result and the same pool. The reported texts are the same too, but
for the seed that only callables show in a scope that begins without an operand.

Either way the formula does what it means, and here this is read off both.
-/

namespace ChainedDecimal

namespace Session

/-- Two attempts at one formula, with parentheses and with callables, agree. -/
structure Agree (s : Session) (initial : Argument) (f : Formula) (a b : Attempt) : Prop where
  /-- Either both fail, with the same fault, or none does. -/
  fault_eq : a.fault = b.fault
  /-- After each step that was finished, in whatever scope, both have the same value; and as many
  steps were finished. -/
  values_eq : a.replies.tail.flatMap Reply.values = b.replies.tail.flatMap Reply.values
  /-- Both have the same result. -/
  outcome_eq : ∃ r ∈ a.replies.getLast?, ∃ r' ∈ b.replies.getLast?, r.outcome = r'.outcome
  /-- The pools are the same afterwards, and so are all settings. -/
  settings_eq : a.session.settings = b.session.settings
  /-- Each reports its text of the formula, if the session traces formulas and there is a result. -/
  events_eq :
    a.replies.flatMap Reply.events = finalEvents bracketEngine (s.tracedText "" initial f)
      (initial.toDecimal?.bind f.steps.eval) ∧
    b.replies.flatMap Reply.events = finalEvents closureEngine
      (s.tracedText Decimal.zero.text initial f) (initial.toDecimal?.bind f.steps.eval)
  /-- The texts are the same if every scope begins with an operand. -/
  text_eq : (∃ x, initial.toDecimal? = .ok (some x)) → f.AllOpened →
    s.tracedText "" initial f = s.tracedText Decimal.zero.text initial f

variable {s t : Session} {f : Formula} {initial : Argument}

theorem formulaText_steps (s : Session) (initial : Argument) (f : Formula) :
    s.formulaText initial f.steps = s.tracedText "" initial f := by
  rw [formulaText, tracedText, Formula.render_record]

theorem tracedText_congr (hinitial : ∃ x, initial.toDecimal? = .ok (some x)) (hf : f.AllOpened)
    (s : Session) (seed seed' : String) :
    s.tracedText seed initial f = s.tracedText seed' initial f := by
  rw [tracedText, tracedText, Formula.openingText_congr hinitial seed seed',
    Formula.text_congr hf seed seed']

/-- Two formulas that mean the same, and meet the same settings, have the same result. -/
theorem Numbered.agree (h : s.Numbered) (hsettings : t.settings = s.settings)
    (hbegins : f.Begins initial) (hf : f.Grounded) :
    s.Agree initial f (s.attempt (formulaCommands initial f.steps))
      (t.attempt (callableCommands initial f)) := by
  have hleft := h.answers initial f.steps
  have hright := answers_of_grounded (s := t) hf hbegins
  have hfinal : ∀ m,
      t.finalOutcome m = s.finalOutcome m ∧ t.finalSettings m = s.finalSettings m := by
    intro m
    unfold finalOutcome finalSettings
    rw [hsettings]
    exact ⟨rfl, rfl⟩
  have htext : t.tracedText Decimal.zero.text initial f =
      s.tracedText Decimal.zero.text initial f := by rw [tracedText, tracedText, hsettings]
  constructor
  · rw [hleft.fault_eq, hright.fault_eq, (hfinal _).1]
  · rw [formulaCommands, callableCommands,
      (h.begun initial f.steps).values_concat fun t ↦ values_step_scope_result t none,
      (begun_of_grounded hf hbegins).values_concat fun t ↦ values_step_chain_result t none]
  · obtain ⟨r, hr, hrout⟩ := hleft.outcome_eq
    obtain ⟨r', hr', hrout'⟩ := hright.outcome_eq
    exact ⟨r, hr, r', hr', by rw [hrout, hrout', (hfinal _).1]⟩
  · rw [hleft.settings_eq, hright.settings_eq, (hfinal _).2]
  · rw [hleft.events_eq, hright.events_eq, formulaText_steps, htext]
    exact ⟨rfl, rfl⟩
  · exact fun hinitial hopened ↦ tracedText_congr hinitial hopened s _ _

/-- **Parentheses and callables agree.** In every session that any commands lead to, a formula with
parentheses comes to the same as with callables, in any session that has the same settings. -/
theorem agree_of_run (commands : List Command)
    (hsettings : t.settings = (Session.initial.run commands).1.settings)
    (hbegins : f.Begins initial) (hf : f.Grounded) :
    (Session.initial.run commands).1.Agree initial f
      ((Session.initial.run commands).1.attempt (formulaCommands initial f.steps))
      (t.attempt (callableCommands initial f)) :=
  (Numbered.initial.run commands).agree hsettings hbegins hf

/-- A formula that begins without an operand, and so does the group it begins with. -/
def sampleFormula : Formula :=
  .group .subtract .absent
    (.group .add (.int 2) (.plain .multiply (.int 3) .absent .done)
      (.plain .divide (.int 4) (.int 1) .done))
    (.unary .negate .absent .done)

theorem agree_sampleFormula :
    sampleFormula.Begins .absent ∧ sampleFormula.Grounded ∧
      (Session.initial.run [.settings (.setTracing true)]).1.Agree .absent sampleFormula
        ((Session.initial.run [.settings (.setTracing true)]).1.attempt
          (formulaCommands .absent sampleFormula.steps))
        ((Session.initial.run [.newGroup true, .settings (.setTracing true)]).1.attempt
          (callableCommands .absent sampleFormula)) := by
  have hbegins : sampleFormula.Begins .absent := by decide
  have hf : sampleFormula.Grounded := by decide
  exact ⟨hbegins, hf, agree_of_run _ rfl hbegins hf⟩

end Session

end ChainedDecimal
