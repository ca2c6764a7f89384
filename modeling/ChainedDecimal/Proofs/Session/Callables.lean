import ChainedDecimal.Proofs.Session.Answers

/-!
# What formulas with callables mean in a session

A formula with callables is written as one command for each step of its outermost scope. A group of
that scope is a callable, which builds it while the command is answered, with all the groups in it.
So the commands are followed by the steps of one scope only, and what a callable does has been said
already.

The chain begins with zero where the formula begins without an operand. That makes no difference: a
formula that may begin so starts with a sum or a difference.
-/

namespace ChainedDecimal

namespace Session

open ChainedDecimal.Bracket

/-- The commands of the steps of a formula with callables, each on the latest chain. -/
def callableRequests : Formula → List Command
  | .done => []
  | .plain op operand scale rest =>
    .chain none (.join op (.plain operand) scale) :: callableRequests rest
  | .unary op scale rest => .chain none (.change op scale) :: callableRequests rest
  | .group op initial inner rest =>
    .chain none (.join op.op (.script (inner.callable initial)) op.scale) :: callableRequests rest

/-- The commands of a whole formula with callables. -/
def callableCommands (initial : Argument) (f : Formula) : List Command :=
  .beginChain initial :: callableRequests f ++ [.chain none .result]

/-- The text of a whole formula, if the session traces formulas. -/
def tracedText (s : Session) (seed : String) (initial : Argument) (f : Formula) : Option String :=
  if s.settings.tracing then some (f.text seed (Formula.openingText seed initial)) else none

variable {s : Session} {c : Closure.Chain} {v : Decimal} {text : Option String} {f rest : Formula}

/-! ## Operators of a chain -/

theorem binary_finite (v : Decimal) (text : Option String) (op : BinaryOp)
    (operand scale : Argument) :
    (Closure.Chain.mk (.finite v) text).binary op operand scale =
      (Steps.joined op operand scale (some v)).map fun w ↦
        ⟨.finite w, text.map (· ++ op.stepText operand.settled scale)⟩ := by
  rw [Closure.Chain.binary, Steps.joined, Argument.settled]
  cases operand.toDecimal with
  | error e => rfl
  | ok x =>
    show (op.extend (.finite v) (.finite x) scale).bind _ = (op.apply v x scale).map _
    rw [BinaryOp.extend_finite]
    cases op.apply v x scale <;> rfl

theorem unary_finite (v : Decimal) (text : Option String) (op : UnaryOp) (scale : Argument) :
    (Closure.Chain.mk (.finite v) text).unary op scale =
      (Steps.changed op scale (some v)).map fun w ↦
        ⟨.finite w, text.map (op.stepText · scale)⟩ := by
  rw [Closure.Chain.unary, Steps.changed, UnaryOp.extend_finite]
  show ((op.apply v scale).map _).bind _ = (op.apply v scale).map _
  cases op.apply v scale <;> rfl

theorem absorb_finite (v : Decimal) (text : Option String) (op : GroupOp) (r : Closure.Reading) :
    (Closure.Chain.mk (.finite v) text).absorb op.op r op.scale =
      (Steps.grouped (.binary op.op) op.scale? (some v) (some r.value)).map fun w ↦
        ⟨.finite w, text.map
          (· ++ (Operator.binary op.op).groupText (r.formula.getD "") op.scale)⟩ := by
  rw [Closure.Chain.absorb, BinaryOp.extend_finite, GroupOp.grouped_eq]
  show ((op.op.apply v r.value op.scale).map _).bind _ = (op.op.apply v r.value op.scale).map _
  cases op.op.apply v r.value op.scale <;> rfl

/-- Joining a chain with what a callable builds, and the values on the way. -/
theorem nest_finite {inner : Formula} {initial : Argument} (hbegins : inner.Begins initial)
    (hinner : inner.Grounded) (v : Decimal) (text : Option String) (op : GroupOp) :
    ∃ notes, (Closure.Chain.mk (.finite v) text).nest op.op (inner.callable initial) op.scale =
        (((initial.toDecimal?.bind inner.steps.eval).bind
          (Steps.grouped (.binary op.op) op.scale? (some v))).map fun w ↦
            ⟨.finite w, text.map (· ++ (Operator.binary op.op).groupText
              (inner.text Decimal.zero.text (Formula.openingText Decimal.zero.text initial))
                op.scale)⟩, notes) ∧
      notes.filterMap Closure.Note.value? = inner.trailFrom initial := by
  have hcall := Formula.evaluated_of_built hbegins
    (fun g around hg ↦ Formula.built hinner g around hg) text.isSome []
  refine ⟨_, Prod.ext ?_ rfl, hcall.notes_eq⟩
  have hout := hcall.outcome_eq
  show (((inner.callable initial).evaluate text.isSome []).outcome.bind _) = _
  cases hmeaning : initial.toDecimal?.bind inner.steps.eval with
  | error e =>
    rw [hmeaning] at hout
    rw [hout]
    rfl
  | ok nested =>
    rw [hmeaning] at hout
    obtain ⟨x, rfl, hout⟩ := hout
    rw [hout]
    show (Closure.Chain.mk (.finite v) text).absorb op.op _ op.scale = _
    rw [absorb_finite]
    cases text <;> rfl

/-! ## Steps of a scope -/

theorem step_chain_of_last (hc : s.chains.getLast? = some c) (request : ChainRequest) :
    s.step (.chain none request) = s.askChain c request := by
  rw [List.getLast?_eq_getElem?] at hc
  have hlen : s.chains.length ≠ 0 := by
    intro hzero
    rw [List.length_eq_zero_iff.1 hzero] at hc
    cases hc
  have hplace : (s.chainPlace? none).bind (fun i ↦ s.chains[i]?) = some c := by
    rw [chainPlace?, if_neg hlen]
    exact hc
  rw [step, onChain, hplace]

/-- An attempt at the steps of a formula, on a chain with a value and a text, carried them out. -/
structure Carried (s : Session) (f : Formula) (v : Decimal) (text : Option String)
    (a : Attempt) : Prop where
  /-- The settings are the same. -/
  settings_eq : a.session.settings = s.settings
  /-- Nothing was reported. -/
  events_eq : ∀ r ∈ a.replies, r.events = []
  /-- The replies show the values on the way. -/
  values_eq : a.replies.flatMap Reply.values = f.steps.trail (some v)
  /-- It failed as the formula does, or led to a chain with its value and its text. -/
  end_eq :
    match f.steps.eval (some v) with
    | .error e => a.fault = some e
    | .ok x => a.fault = none ∧ ∃ w, x = some w ∧
      a.session.chains.getLast? = some ⟨.finite w, text.map (f.text Decimal.zero.text)⟩

/-- A first step that leads to the others is carried out if they are. -/
theorem Carried.of_step {command : Command} {commands : List Command} {m : Except Fault Decimal}
    {own : String → String} {notes : List Closure.Note}
    (htrail : f.steps.trail (some v) = notes.filterMap Closure.Note.value? ++
      match m with
      | .error _ => []
      | .ok w => w :: rest.steps.trail (some w))
    (hstep : s.step command =
      s.addChain? (m.map fun w ↦ ⟨.finite w, text.map own⟩) notes)
    (heval : f.steps.eval (some v) = m.bind fun w ↦ rest.steps.eval (some w))
    (htext : ∀ x, f.text Decimal.zero.text x = rest.text Decimal.zero.text (own x))
    (hrest : ∀ {s : Session} {w : Decimal} {text : Option String},
      s.chains.getLast? = some ⟨.finite w, text⟩ → s.Carried rest w text (s.attempt commands)) :
    s.Carried f v text (s.attempt (command :: commands)) := by
  cases hm : m with
  | error e =>
    rw [hm] at hstep heval htrail
    have hout : (s.step command).2.outcome = .error e := by rw [hstep]; rfl
    rw [attempt_cons_error hout, hstep]
    constructor
    · rfl
    · intro r hr
      rw [List.mem_singleton.1 hr]
      rfl
    · rw [htrail, List.flatMap_singleton]
      rfl
    · rw [heval]
      rfl
  | ok w =>
    rw [hm] at hstep heval htrail
    -- The new chain is the latest one, on which the other steps are carried out.
    have hout : (s.step command).2.outcome = .ok (.chain (chainName s.chains.length)
        ⟨.finite w, text.map own⟩) := by rw [hstep]; rfl
    have hlast : (s.step command).1.chains.getLast? = some ⟨.finite w, text.map own⟩ := by
      rw [hstep]
      exact List.getLast?_concat
    have hafter := hrest hlast
    have hsettings := hafter.settings_eq
    have hend := hafter.end_eq
    rw [attempt_cons_ok hout]
    rw [hstep] at hafter hsettings hend ⊢
    constructor
    · exact hsettings
    · intro r hr
      rcases List.mem_cons.1 hr with rfl | hr
      · rfl
      · exact hafter.events_eq r hr
    · rw [List.flatMap_cons, hafter.values_eq, htrail]
      show (notes.filterMap Closure.Note.value? ++ [w]) ++ rest.steps.trail (some w) = _
      rw [List.append_assoc]
      rfl
    · rw [heval]
      show match rest.steps.eval (some w) with
        | .error e => _
        | .ok x => _
      cases hx : rest.steps.eval (some w) with
      | error e =>
        rw [hx] at hend
        exact hend
      | ok x =>
        rw [hx] at hend
        obtain ⟨hfault, y, hy, hlast⟩ := hend
        refine ⟨hfault, y, hy, hlast.trans ?_⟩
        rw [Option.map_map]
        congr 2
        cases text with
        | none => rfl
        | some own' => exact congrArg some (htext own').symm

/-- **The steps of a formula with callables do what they mean.** -/
theorem carried_of_grounded (hf : f.Grounded)
    (hc : s.chains.getLast? = some ⟨.finite v, text⟩) :
    s.Carried f v text (s.attempt (callableRequests f)) := by
  induction f generalizing s v text with
  | done =>
    refine ⟨rfl, ?_, rfl, rfl, v, rfl, ?_⟩
    · intro r hr
      cases hr
    · show s.chains.getLast? = _
      rw [hc]
      cases text <;> rfl
  | plain op operand scale rest ih =>
    have hstep := step_chain_of_last hc (.join op (.plain operand) scale)
    rw [askChain, Closure.Chain.join, binary_finite] at hstep
    refine .of_step ?_ hstep rfl (fun x ↦ rfl) (ih hf)
    rw [Formula.steps, Steps.trail]
    rfl
  | unary op scale rest ih =>
    have hstep := step_chain_of_last hc (.change op scale)
    rw [askChain, unary_finite] at hstep
    refine .of_step ?_ hstep rfl (fun x ↦ rfl) (ih hf)
    rw [Formula.steps, Steps.trail]
    rfl
  | group op initial inner rest ih_inner ih_rest =>
    obtain ⟨hbegins, hinner, hrest⟩ := hf
    obtain ⟨notes, hnest, hnotes⟩ := nest_finite hbegins hinner v text op
    have hstep :=
      step_chain_of_last hc (.join op.op (.script (inner.callable initial)) op.scale)
    rw [askChain, Closure.Chain.join, hnest] at hstep
    have htrail := Formula.trail_steps_group op initial inner rest (some v)
    rw [← hnotes] at htrail
    refine .of_step htrail hstep ?_ (fun x ↦ rfl) (ih_rest hrest)
    rw [Formula.eval_steps_group]
    cases initial.toDecimal?.bind inner.steps.eval <;> rfl

/-! ## Whole formulas -/

/-- A formula that begins without an operand means the same as from zero. -/
theorem eval_zero_of_begins (hbegins : f.Begins .absent) :
    f.steps.eval none = f.steps.eval (some .zero) ∧
      f.steps.trail none = f.steps.trail (some .zero) := by
  cases f with
  | group op initial inner rest =>
    have hgrouped : Steps.grouped (.binary op.op) op.scale? none =
        Steps.grouped (.binary op.op) op.scale? (some .zero) := by
      funext nested
      cases nested with
      | none => cases op <;> rfl
      | some x => rw [op.grouped_eq, op.grouped_eq]; rfl
    constructor
    · rw [Formula.eval_steps_group, Formula.eval_steps_group, hgrouped]
    · rw [Formula.trail_steps_group, Formula.trail_steps_group, hgrouped]
  | _ => exact absurd rfl hbegins

theorem eval_getD_of_begins {initial : Argument} {first : Option Decimal}
    (hbegins : f.Begins initial) (hfirst : initial.toDecimal? = .ok first) :
    f.steps.eval first = f.steps.eval (some (first.getD .zero)) ∧
      f.steps.trail first = f.steps.trail (some (first.getD .zero)) ∧
        Formula.openingText Decimal.zero.text initial = (first.getD .zero).text := by
  rw [Formula.openingText, hfirst]
  cases first with
  | some x => exact ⟨rfl, rfl, rfl⟩
  | none =>
    rw [Argument.eq_absent_of_toDecimal? hfirst] at hbegins
    obtain ⟨heval, htrail⟩ := eval_zero_of_begins hbegins
    exact ⟨heval, htrail, rfl⟩

theorem begun_of_grounded (hf : f.Grounded) {initial : Argument} (hbegins : f.Begins initial) :
    s.Begun closureEngine (s.tracedText Decimal.zero.text initial f) (.chain none .result) initial
      f.steps (s.attempt (.beginChain initial :: callableRequests f)) := by
  cases hfirst : initial.toDecimal? with
  | error e =>
    have hstep : s.step (.beginChain initial) = (s, .of (.error e)) := by
      rw [step, beginChain, Closure.Chain.begin, hfirst]
      rfl
    exact begun_of_refused hfirst hstep
  | ok first =>
    -- From here on the chain begins with a value, whether there was an operand or not.
    obtain ⟨heval, htrail, hopening⟩ := eval_getD_of_begins hbegins hfirst
    generalize hv : first.getD .zero = v at heval htrail hopening
    have hstep : s.step (.beginChain initial) =
        s.addChain ⟨.finite v, if s.settings.tracing then some v.text else none⟩ .hidden := by
      rw [step, beginChain, Closure.Chain.begin, hfirst, ← hv]
      rfl
    have hlast : (s.addChain ⟨.finite v, if s.settings.tracing then some v.text else none⟩
        .hidden).1.chains.getLast? =
          some ⟨.finite v, if s.settings.tracing then some v.text else none⟩ :=
      List.getLast?_concat
    have hafter := carried_of_grounded hf hlast
    have hend := hafter.end_eq
    refine begun_of_accepted ?_ hfirst hstep hafter.settings_eq hafter.events_eq
      (hafter.values_eq.trans htrail.symm)
    rw [heval]
    cases hx : f.steps.eval (some v) with
    | error e =>
      rw [hx] at hend
      exact hend
    | ok x =>
      rw [hx] at hend
      obtain ⟨hfault, w, rfl, hlast⟩ := hend
      have htext : (if s.settings.tracing then some v.text else none).map
          (f.text Decimal.zero.text) = s.tracedText Decimal.zero.text initial f := by
        rw [tracedText, hopening]
        cases s.settings.tracing <;> rfl
      rw [htext] at hlast
      exact ⟨hfault, .hidden, step_chain_of_last hlast .result⟩

/-- **A formula with callables has the result that it means.** -/
theorem answers_of_grounded (hf : f.Grounded) {initial : Argument} (hbegins : f.Begins initial) :
    s.Answers closureEngine (s.tracedText Decimal.zero.text initial f)
      (initial.toDecimal?.bind f.steps.eval) (s.attempt (callableCommands initial f)) :=
  (begun_of_grounded hf hbegins).answers

end Session

end ChainedDecimal
