import ChainedDecimal.Proofs.Session.Parity
import ChainedDecimal.Proofs.Session.Pools

/-!
# The calculator agrees with chains

A calculation that needs no chain can be written as one all the same: a chain is begun with the
first operand, each further operand is a step of it, and the result is read. Either way the operands
are made exact from left to right, and each is joined before the next one is looked at. So the same
operand is reported where several are unusable, and the same representation of the result passes
through the pool.

This asks for a first operand. A chain may begin without one, and a calculation may not.
-/

namespace ChainedDecimal

/-- A value is joined with operands, one after the other. -/
def Formula.joins (op : BinaryOp) : List Argument → Formula
  | [] => .done
  | b :: bs => .plain op b .absent (joins op bs)

namespace Calculator

/-- The operand that a chain for a calculation begins with. -/
def Call.first : Call → Argument
  | .add a _ _ | .subtract a _ | .multiply a _ _ | .divide a _ _ | .negate a | .absolute a
  | .round a _ => a

/-- The steps of a chain for a calculation. -/
def Call.formula : Call → Formula
  | .add _ b others => .joins .add (b :: others)
  | .subtract _ b => .joins .subtract [b]
  | .multiply _ b others => .joins .multiply (b :: others)
  | .divide _ b scale => .plain .divide b scale .done
  | .negate _ => .unary .negate .absent .done
  | .absolute _ => .unary .absolute .absent .done
  | .round _ scale => .unary .round scale .done

theorem grounded_joins (op : BinaryOp) (bs : List Argument) :
    (Formula.joins op bs).Grounded := by
  induction bs with
  | nil => exact trivial
  | cons b bs ih => exact ih

theorem Call.grounded_formula (c : Call) : c.formula.Grounded := by
  cases c with
  | add a b others => exact grounded_joins .add (b :: others)
  | subtract a b => exact grounded_joins .subtract [b]
  | multiply a b others => exact grounded_joins .multiply (b :: others)
  | divide a b scale | negate a | absolute a | round a scale => exact trivial

theorem Call.begins_formula (c : Call) (h : c.first ≠ .absent) : c.formula.Begins c.first := by
  cases c <;> exact h

/-! ## The value -/

theorem eval_plain (op : BinaryOp) (b scale : Argument) (rest : Formula) (x : Decimal) :
    (Formula.plain op b scale rest).steps.eval (some x) =
      (b.toDecimal.bind fun y ↦ op.apply x y scale).bind fun z ↦ rest.steps.eval (some z) := by
  rw [Formula.steps, Bracket.Steps.eval, Bracket.Steps.joined]
  cases b.toDecimal <;> rfl

theorem eval_unary (op : UnaryOp) (scale : Argument) (rest : Formula) (x : Decimal) :
    (Formula.unary op scale rest).steps.eval (some x) =
      (op.apply x scale).bind fun z ↦ rest.steps.eval (some z) := rfl

/-- Further operands are joined as the steps of a chain are. -/
theorem map_joinAll (op : BinaryOp) (x : Decimal) (bs : List Argument) :
    (joinAll op x bs).map some = (Formula.joins op bs).steps.eval (some x) := by
  induction bs generalizing x with
  | nil => rfl
  | cons b bs ih =>
    rw [joinAll, Formula.joins, eval_plain]
    cases b.toDecimal.bind fun y ↦ op.apply x y .absent with
    | error f => rfl
    | ok z => exact ih z

theorem map_join (op : BinaryOp) (a b scale : Argument) :
    (join op a b scale).map some =
      a.toDecimal.bind fun x ↦ (Formula.plain op b scale .done).steps.eval (some x) := by
  rw [join]
  cases a.toDecimal with
  | error f => rfl
  | ok x =>
    refine Eq.trans ?_ (eval_plain op b scale .done x).symm
    show (b.toDecimal.bind fun y ↦ op.apply x y scale).map some = _
    cases b.toDecimal.bind fun y ↦ op.apply x y scale <;> rfl

theorem map_join_joinAll (op : BinaryOp) (a b : Argument) (others : List Argument) :
    ((join op a b .absent).bind fun x ↦ joinAll op x others).map some =
      a.toDecimal.bind fun x ↦ (Formula.joins op (b :: others)).steps.eval (some x) := by
  rw [join]
  cases a.toDecimal with
  | error f => rfl
  | ok x => exact map_joinAll op x (b :: others)

theorem map_change (op : UnaryOp) (a scale : Argument) :
    (change op a scale).map some =
      a.toDecimal.bind fun x ↦ (Formula.unary op scale .done).steps.eval (some x) := by
  rw [change]
  cases a.toDecimal with
  | error f => rfl
  | ok x =>
    refine Eq.trans ?_ (eval_unary op scale .done x).symm
    show (op.apply x scale).map some = _
    cases op.apply x scale <;> rfl

/-- **A calculation has the value of its chain.** -/
theorem Call.map_value (c : Call) :
    c.value.map some = c.first.toDecimal.bind fun x ↦ c.formula.steps.eval (some x) := by
  cases c with
  | add a b others => exact map_join_joinAll .add a b others
  | subtract a b => exact map_join .subtract a b .absent
  | multiply a b others => exact map_join_joinAll .multiply a b others
  | divide a b scale => exact map_join .divide a b scale
  | negate a => exact map_change .negate a .absent
  | absolute a => exact map_change .absolute a .absent
  | round a scale => exact map_change .round a scale

theorem Call.map_value_of_first (c : Call) (h : c.first ≠ .absent) :
    c.value.map some = c.first.toDecimal?.bind c.formula.steps.eval := by
  rw [c.map_value, Argument.toDecimal?_of_ne_absent h]
  cases c.first.toDecimal <;> rfl

end Calculator

namespace Session

open Calculator (Call)

variable {s : Session} {c : Call}

/-- A calculation comes to what a chain with its value does. -/
theorem step_calculate (s : Session) (c : Call) :
    (s.step (.calculate c)).2.outcome = s.finalOutcome (c.value.map some) ∧
      (s.step (.calculate c)).1.settings = s.finalSettings (c.value.map some) := by
  rw [step, calculate]
  cases hv : c.value with
  | error f =>
    have hrun : c.run s.settings = .error f := by rw [Call.run, hv]; rfl
    rw [hrun]
    exact ⟨rfl, rfl⟩
  | ok v =>
    have hrun : c.run s.settings = s.settings.pooled v := by rw [Call.run, hv]; rfl
    rw [hrun, Except.map, finalOutcome, finalSettings, Settings.pooledNumeral_finite]
    cases s.settings.pooled v with
    | error f => exact ⟨rfl, rfl⟩
    | ok p => exact ⟨rfl, rfl⟩

/-- An attempt at the chain for a calculation comes to what the calculation does. -/
structure AgreesWithCalculation (s : Session) (c : Call) (a : Attempt) : Prop where
  /-- The last reply tells the same result, or the same fault. -/
  outcome_eq : ∃ r ∈ a.replies.getLast?, r.outcome = (s.step (.calculate c)).2.outcome
  /-- No reply before that tells of a fault. -/
  fault_eq : a.fault =
    match (s.step (.calculate c)).2.outcome with
    | .error f => some f
    | .ok _ => none
  /-- The pools are the same afterwards, and so are all settings. -/
  settings_eq : a.session.settings = (s.step (.calculate c)).1.settings
  /-- If there is no result, nothing has changed. -/
  failed : ∀ {f : Fault}, (s.step (.calculate c)).2.outcome = .error f →
    a.session.settings = s.settings

theorem Answers.agreesWithCalculation {engine : String} {formula : Option String} {a : Attempt}
    (h : s.Answers engine formula (c.value.map some) a) : s.AgreesWithCalculation c a := by
  obtain ⟨houtcome, hsettings⟩ := s.step_calculate c
  have hsame : a.session.settings = (s.step (.calculate c)).1.settings :=
    h.settings_eq.trans hsettings.symm
  constructor
  · rw [houtcome]
    exact h.outcome_eq
  · rw [houtcome]
    exact h.fault_eq
  · exact hsame
  · exact fun hfault ↦ hsame.trans (settings_step_of_error hfault)

/-- **The calculator agrees with both kinds of chains.** In every session that any commands lead to,
a calculation with a first operand gives the same result as the chain with that operand that is
joined with the others, whether it is a bracketed one or one with callables, and leaves the same
entries in the pool; or all three fail with the same fault and change no pool. -/
theorem agreesWithCalculation_of_run (commands : List Command) (h : c.first ≠ .absent) :
    (Session.initial.run commands).1.AgreesWithCalculation c
      ((Session.initial.run commands).1.attempt (formulaCommands c.first c.formula.steps)) ∧
    (Session.initial.run commands).1.AgreesWithCalculation c
      ((Session.initial.run commands).1.attempt (callableCommands c.first c.formula)) := by
  have hnumbered := Numbered.initial.run commands
  have hbracket := hnumbered.answers c.first c.formula.steps
  have hclosure := answers_of_grounded (s := (Session.initial.run commands).1)
    c.grounded_formula (c.begins_formula h)
  rw [← c.map_value_of_first h] at hbracket hclosure
  exact ⟨hbracket.agreesWithCalculation, hclosure.agreesWithCalculation⟩

/-- A sum of four operands, which is a zero with digits after the point. -/
def sampleSum : Call :=
  .add (.decimal ⟨false, 150, -2⟩) (.int 2) [.decimal ⟨false, 50, -2⟩, .int (-4)]

theorem agreesWithCalculation_sampleSum :
    sampleSum.first ≠ .absent ∧
      (Session.initial.run [.beginBracket (.int 7)]).1.AgreesWithCalculation sampleSum
        ((Session.initial.run [.beginBracket (.int 7)]).1.attempt
          (formulaCommands sampleSum.first sampleSum.formula.steps)) ∧
      (Session.initial.run [.beginBracket (.int 7)]).1.AgreesWithCalculation sampleSum
        ((Session.initial.run [.beginBracket (.int 7)]).1.attempt
          (callableCommands sampleSum.first sampleSum.formula)) := by
  have hfirst : sampleSum.first ≠ .absent := by decide
  exact ⟨hfirst, agreesWithCalculation_of_run _ hfirst⟩

/-- The pool answers with the reduced form. -/
example : (Session.initial.step (.calculate sampleSum)).2.outcome =
    .ok (.result (.finite .zero) (some 1)) := by
  decide

end Session

end ChainedDecimal
