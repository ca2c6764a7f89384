import ChainedDecimal.Proofs.Malformed
import ChainedDecimal.Proofs.Shared.Formula

/-!
# What callables build

A callable acts on the group that it is given, and groups are built from the inside out: a nested
callable is run to its end before its value is combined with that of the group around it. This file
shows that a callable which is written for a formula builds a group with the value that the formula
means, passes through the same values on the way, and fails with the same fault.

The induction is on the formula, for any group and whatever groups stand around it; that a nested
callable leaves these alone is part of what is proved.
-/

namespace ChainedDecimal

open ChainedDecimal.Bracket Closure

/-- The value of a group, as the note of a finished step tells. -/
def Closure.Note.value? : Note → Option Decimal
  | .state v _ => v
  | .fault _ => none

@[simp] theorem Trace.render_push (t : Trace) (x : String) : (t.push x).render = t.render ++ x := by
  simp [Trace.render]

@[simp] theorem Trace.render_unary (t : Trace) (op : UnaryOp) (scale : Argument) :
    (t.unary op scale 0).render = op.stepText t.render scale := by
  simp [Trace.render, Trace.unary]

namespace Closure

/-! ## Single steps -/

namespace Group

/-- The text of a group, where the seed stands for a value that is missing. -/
def ownText? (g : Group) : Option String :=
  g.trace.map fun t ↦
    match g.value with
    | none => t.render ++ Decimal.zero.text
    | some _ => t.render

variable {g : Group} {v : Decimal}

theorem binary_eq (hv : g.value = some v) (op : BinaryOp) (operand scale : Argument) :
    g.binary op operand scale = (Steps.joined op operand scale g.value).map fun w ↦
      ⟨some w, g.trace.map fun t ↦ t.binary op operand.settled scale⟩ := by
  rw [binary, hv, Steps.joined, Argument.settled]
  cases operand.toDecimal with
  | error e => rfl
  | ok x =>
    show (op.apply v x scale).bind _ = (op.apply v x scale).map _
    cases op.apply v x scale <;> rfl

theorem unary_eq (hv : g.value = some v) (op : UnaryOp) (scale : Argument) :
    g.unary op scale = (Steps.changed op scale g.value).map fun w ↦
      ⟨some w, g.trace.map fun t ↦ t.unary op scale 0⟩ := by
  rw [unary, hv, Steps.changed]
  show (op.apply v scale).bind _ = (op.apply v scale).map _
  cases op.apply v scale <;> rfl

end Group

namespace Script

variable {g g' : Group} {around : List Group} {e : Fault} {rest inner : Script}

theorem run_plain_error {act : Act} (h : act.on g = .error e) :
    (plain act 0 false rest).run (g :: around) = ⟨.error e, g :: around, [.fault e]⟩ := by
  simp [run, Act.perform, Except.bind, h, Run.proceed, Run.note]

theorem run_plain_ok {act : Act} (h : act.on g = .ok g') :
    (plain act 0 false rest).run (g :: around) =
      { rest.run (g' :: around) with
        notes := [.state g'.value g'.formula?] ++ (rest.run (g' :: around)).notes } := by
  simp [run, Act.perform, Except.bind, h, Run.proceed, Run.note]

variable {op : BinaryOp} {scale : Argument} {r : Reading}

theorem run_nest_error (hgroups : (inner.evaluate g.isTraced (g :: around)).groups = g :: around)
    (h : (inner.evaluate g.isTraced (g :: around)).outcome = .error e) :
    (nest op inner scale 0 false rest).run (g :: around) =
      ⟨.error e, g :: around, (inner.evaluate g.isTraced (g :: around)).notes ++ [.fault e]⟩ := by
  rw [evaluate] at h hgroups ⊢
  simp [run, absorbing, h, hgroups, Run.proceed, Run.note]

theorem run_nest_absorb_error
    (hgroups : (inner.evaluate g.isTraced (g :: around)).groups = g :: around)
    (h : (inner.evaluate g.isTraced (g :: around)).outcome = .ok r)
    (habsorb : g.absorb op r scale = (.error e, g')) :
    (nest op inner scale 0 false rest).run (g :: around) =
      ⟨.error e, g' :: around, (inner.evaluate g.isTraced (g :: around)).notes ++ [.fault e]⟩ := by
  rw [evaluate] at h hgroups ⊢
  simp [run, absorbing, h, hgroups, habsorb, Run.proceed, Run.note]

theorem run_nest_ok (hgroups : (inner.evaluate g.isTraced (g :: around)).groups = g :: around)
    (h : (inner.evaluate g.isTraced (g :: around)).outcome = .ok r)
    (habsorb : g.absorb op r scale = (.ok (), g')) :
    (nest op inner scale 0 false rest).run (g :: around) =
      { rest.run (g' :: around) with
        notes := (inner.evaluate g.isTraced (g :: around)).notes ++
          [.state g'.value g'.formula?] ++ (rest.run (g' :: around)).notes } := by
  rw [evaluate] at h hgroups ⊢
  simp [run, absorbing, h, hgroups, habsorb, Run.proceed, Run.note]

end Script

/-- Joining a group with another one, where the value may be missing if the operator allows it. -/
theorem Group.absorb_eq {g : Group} {op : GroupOp} (hg : g.value = none → op.isAdditive = true)
    (r : Reading) :
    g.absorb op.op r op.scale =
      match Steps.grouped (.binary op.op) op.scale? g.value (some r.value) with
      | .error e => (.error e, g.seeded op.op)
      | .ok w => (.ok (), ⟨some w, (g.seeded op.op).trace.map fun t ↦
          t.group (.binary op.op) (r.formula.getD "") op.scale⟩) := by
  have hleft : g.leftOperand op.op = g.value.getD .zero := by
    rw [Group.leftOperand]
    cases hv : g.value with
    | none => exact GroupOp.seed_of_isAdditive (hg hv)
    | some v => rfl
  rw [GroupOp.grouped_eq, ← hleft]
  show (match op.op.apply (g.leftOperand op.op) r.value op.scale with
    | .error e => _
    | .ok w => _) = _
  cases op.op.apply (g.leftOperand op.op) r.value op.scale with
  | error e => rfl
  | ok w => rfl

/-- The text of the group behind its own text. -/
theorem Group.ownText?_absorb {g : Group} {op : GroupOp}
    (hg : g.value = none → op.isAdditive = true) (w : Decimal) (formula : String) :
    Group.ownText? ⟨some w, (g.seeded op.op).trace.map fun t ↦
        t.group (.binary op.op) formula op.scale⟩ =
      g.ownText?.map (· ++ (Operator.binary op.op).groupText formula op.scale) := by
  rw [Group.ownText?, Group.ownText?, Group.seeded]
  cases hv : g.value with
  | none =>
    rw [GroupOp.seed_of_isAdditive (hg hv)]
    simp [Function.comp_def, Trace.group, Trace.operand, Argument.shown]
  | some v => simp [Function.comp_def, Trace.group]

end Closure

/-! ## Whole callables -/

namespace Formula

/-- The values on the way from the beginning of a scope. -/
def trailFrom (f : Formula) (initial : Argument) : List Decimal :=
  match initial.toDecimal? with
  | .error _ => []
  | .ok first => first.toList ++ f.steps.trail first

/-- A group means what its callable means, joined with the value of the scope. -/
theorem eval_steps_group (op : GroupOp) (initial : Argument) (inner rest : Formula)
    (v : Option Decimal) :
    (group op initial inner rest).steps.eval v =
      (initial.toDecimal?.bind inner.steps.eval).bind fun nested ↦
        (Steps.grouped (.binary op.op) op.scale? v nested).bind fun w ↦
          rest.steps.eval (some w) := by
  rw [steps]
  cases hfirst : initial.toDecimal? with
  | error e =>
    rw [Steps.eval, op.groupScale_eq, hfirst]
    rfl
  | ok first => exact Steps.eval_group op.groupScale_eq hfirst

theorem trail_steps_group (op : GroupOp) (initial : Argument) (inner rest : Formula)
    (v : Option Decimal) :
    (group op initial inner rest).steps.trail v =
      inner.trailFrom initial ++
        match (initial.toDecimal?.bind inner.steps.eval).bind
          (Steps.grouped (.binary op.op) op.scale? v) with
        | .error _ => []
        | .ok w => w :: rest.steps.trail (some w) := by
  rw [steps, trailFrom]
  cases hfirst : initial.toDecimal? with
  | error e =>
    rw [Steps.trail, op.groupScale_eq, hfirst]
    rfl
  | ok first =>
    rw [Steps.trail_group op.groupScale_eq hfirst, List.append_assoc]
    rfl

/-- Running the steps on a group built what they mean. -/
def Built (f : Formula) (g : Group) (around : List Group) (r : Run Group) : Prop :=
  r.notes.filterMap Note.value? = f.steps.trail g.value ∧
    match f.steps.eval g.value with
    | .error e => r.outcome = .error e ∧ r.groups.tail = around
    | .ok v => ∃ g' w, v = some w ∧ r.outcome = .ok g' ∧ r.groups = g' :: around ∧
      g'.value = some w ∧ g'.formula? = g.ownText?.map (f.text Decimal.zero.text)

/-- A callable gave what the formula means. -/
structure Evaluated (f : Formula) (initial : Argument) (traced : Bool) (around : List Group)
    (b : Run Reading) : Prop where
  /-- The groups around are as they were. -/
  groups_eq : b.groups = around
  /-- The notes tell the values on the way. -/
  notes_eq : b.notes.filterMap Note.value? = f.trailFrom initial
  /-- The outcome is the value, with the text if it is traced. -/
  outcome_eq :
    match initial.toDecimal?.bind f.steps.eval with
    | .error e => b.outcome = .error e
    | .ok v => ∃ w, v = some w ∧ b.outcome = .ok ⟨w,
        if traced then
          some (f.text Decimal.zero.text (openingText Decimal.zero.text initial))
        else none⟩

variable {f rest : Formula} {g g' : Group} {around : List Group} {e : Fault}

theorem Built.of_fault {gs : List Group} {notes : List Note} {vs : List Decimal}
    (heval : f.steps.eval g.value = .error e)
    (htrail : f.steps.trail g.value = vs) (hnotes : notes.filterMap Note.value? = vs)
    (hgroups : gs.tail = around) : f.Built g around ⟨.error e, gs, notes⟩ := by
  rw [Built, heval, htrail]
  exact ⟨hnotes, rfl, hgroups⟩

/-- The first step and what the others build make what all of them build. -/
theorem Built.of_step (notes : List Note) (vs : List Decimal) {r : Run Group}
    (heval : f.steps.eval g.value = rest.steps.eval g'.value)
    (htrail : f.steps.trail g.value = vs ++ rest.steps.trail g'.value)
    (htext : g.ownText?.map (f.text Decimal.zero.text) =
      g'.ownText?.map (rest.text Decimal.zero.text))
    (hnotes : notes.filterMap Note.value? = vs) (h : rest.Built g' around r) :
    f.Built g around { r with notes := notes ++ r.notes } := by
  obtain ⟨hrest, hout⟩ := h
  rw [Built, heval, htrail, htext, List.filterMap_append, hnotes, hrest]
  exact ⟨rfl, hout⟩

/-- What was built is read at the end. -/
theorem evaluated_of_finished (g : Group) (notes : List Note) {initial : Argument} {traced : Bool}
    {r : Run Group} (hfirst : initial.toDecimal? = .ok g.value)
    (hnotes : notes.filterMap Note.value? = g.value.toList)
    (htext : g.ownText? =
      if traced then some (openingText Decimal.zero.text initial) else none)
    (h : f.Built g around r) :
    f.Evaluated initial traced around (Run.finished { r with notes := notes ++ r.notes }) := by
  obtain ⟨hvalues, hout⟩ := h
  have hmeaning : initial.toDecimal?.bind f.steps.eval = f.steps.eval g.value := by rw [hfirst]; rfl
  have hnotes' : (notes ++ r.notes).filterMap Note.value? = f.trailFrom initial := by
    rw [List.filterMap_append, hnotes, hvalues, trailFrom, hfirst]
  cases heval : f.steps.eval g.value with
  | error e =>
    rw [heval] at hout
    obtain ⟨houtcome, hgroups⟩ := hout
    refine ⟨hgroups, hnotes', ?_⟩
    rw [hmeaning, heval]
    show r.outcome.bind _ = _
    rw [houtcome]
    rfl
  | ok v =>
    rw [heval] at hout
    obtain ⟨g', w, rfl, houtcome, hgroups, hw, hformula⟩ := hout
    refine ⟨by rw [Run.finished, hgroups]; rfl, hnotes', ?_⟩
    rw [hmeaning, heval]
    refine ⟨w, rfl, ?_⟩
    show r.outcome.bind _ = _
    rw [houtcome]
    show g'.reading = _
    rw [Group.reading, hw, hformula, htext]
    cases traced <;> rfl

/-- A callable builds what its steps build on a fresh group. -/
theorem evaluated_of_built {initial : Argument} (hbegins : f.Begins initial)
    (hbuilt : ∀ g around, (g.value = none → f.Begins .absent) →
      f.Built g around (f.script.run (g :: around))) (traced : Bool) (around : List Group) :
    f.Evaluated initial traced around ((f.callable initial).evaluate traced around) := by
  rw [Script.evaluate, callable]
  by_cases habsent : initial = .absent
  · subst habsent
    rw [if_pos rfl]
    have hfresh := hbuilt (.fresh traced) around fun _ ↦ hbegins
    refine evaluated_of_finished (.fresh traced) [] rfl rfl ?_ hfresh
    cases traced <;> rfl
  · rw [if_neg habsent]
    have hfirst := Argument.toDecimal?_of_ne_absent habsent
    cases hx : initial.toDecimal with
    | error e =>
      have hact : (Act.begin initial).on (.fresh traced) = .error e := by
        rw [Act.on, Group.begin, hx]
        rfl
      rw [hx] at hfirst
      rw [Script.run_plain_error hact]
      constructor
      · rfl
      · rw [trailFrom, hfirst]
        rfl
      · rw [hfirst]
        rfl
    | ok x =>
      have hact : (Act.begin initial).on (.fresh traced) =
          .ok ⟨some x, (Group.fresh traced).trace.map fun _ ↦ .ofValue? (some x)⟩ := by
        rw [Act.on, Group.begin, hx]
        rfl
      rw [hx] at hfirst
      rw [Script.run_plain_ok hact]
      have hstart := hbuilt ⟨some x, (Group.fresh traced).trace.map fun _ ↦ .ofValue? (some x)⟩
        around fun hnone ↦ absurd hnone (by simp)
      refine evaluated_of_finished ⟨some x, _⟩ [.state (some x) _] hfirst rfl ?_ hstart
      rw [openingText, hfirst]
      cases traced <;> simp [Group.ownText?, Group.fresh, Trace.ofValue?, Trace.operand,
        Trace.render, Trace.empty, Argument.shown, Except.map]

/-- **A callable builds what its formula means.** -/
theorem built (hf : f.Grounded) (g : Group) (around : List Group)
    (hg : g.value = none → f.Begins .absent) : f.Built g around (f.script.run (g :: around)) := by
  induction f generalizing g around with
  | done =>
    cases hv : g.value with
    | none => exact absurd rfl (hg hv)
    | some v =>
      refine ⟨rfl, ?_⟩
      refine ⟨g, v, hv, rfl, rfl, hv, ?_⟩
      rw [Group.formula?, Group.ownText?, hv]
      cases g.trace <;> rfl
  | plain op operand scale rest ih =>
    -- Only a formula that starts with a group may begin without a value.
    cases hv : g.value with
    | none => exact absurd rfl (hg hv)
    | some v =>
      have hact : (Act.binary op operand scale).on g = _ := g.binary_eq hv op operand scale
      cases hj : Steps.joined op operand scale g.value with
      | error e =>
        rw [hj] at hact
        rw [script, Script.run_plain_error hact]
        refine .of_fault (by rw [steps, Steps.eval, hj]; rfl) ?_ rfl rfl
        rw [steps, Steps.trail, hj]
        rfl
      | ok w =>
        rw [hj] at hact
        rw [script, Script.run_plain_ok hact]
        refine .of_step [_] [w] (by rw [steps, Steps.eval, hj]; rfl)
          (by rw [steps, Steps.trail, hj]; rfl) ?_ rfl (ih hf _ around (by simp))
        simp [Group.ownText?, hv, Function.comp_def, text, Trace.binary]
  | unary op scale rest ih =>
    cases hv : g.value with
    | none => exact absurd rfl (hg hv)
    | some v =>
      have hact : (Act.unary op scale).on g = _ := g.unary_eq hv op scale
      cases hj : Steps.changed op scale g.value with
      | error e =>
        rw [hj] at hact
        rw [script, Script.run_plain_error hact]
        refine .of_fault (by rw [steps, Steps.eval, hj]; rfl) ?_ rfl rfl
        rw [steps, Steps.trail, hj]
        rfl
      | ok w =>
        rw [hj] at hact
        rw [script, Script.run_plain_ok hact]
        refine .of_step [_] [w] (by rw [steps, Steps.eval, hj]; rfl)
          (by rw [steps, Steps.trail, hj]; rfl) ?_ rfl (ih hf _ around (by simp))
        simp [Group.ownText?, hv, Function.comp_def, text]
  | group op initial inner rest ih_inner ih_rest =>
    obtain ⟨hbegins, hinner, hrest⟩ := hf
    have hadditive : g.value = none → op.isAdditive = true := fun hv ↦
      (hg hv).resolve_left fun hne ↦ hne rfl
    have hcall := evaluated_of_built hbegins (fun g around hg ↦ ih_inner hinner g around hg)
      g.isTraced (g :: around)
    have hnotes := hcall.notes_eq
    have hout := hcall.outcome_eq
    have heval := eval_steps_group op initial inner rest g.value
    have htrail := trail_steps_group op initial inner rest g.value
    rw [script_group]
    cases hmeaning : initial.toDecimal?.bind inner.steps.eval with
    | error e =>
      -- The callable fails, and the group is not touched.
      rw [hmeaning] at hout heval htrail
      rw [Script.run_nest_error hcall.groups_eq hout]
      refine .of_fault heval htrail ?_ rfl
      rw [List.filterMap_append, hnotes]
      rfl
    | ok nested =>
      rw [hmeaning] at hout heval htrail
      obtain ⟨x, rfl, hout⟩ := hout
      have habsorb := g.absorb_eq hadditive ⟨x, if g.isTraced then
        some (inner.text Decimal.zero.text (openingText Decimal.zero.text initial)) else none⟩
      simp only [Except.bind] at heval htrail
      cases hj : Steps.grouped (.binary op.op) op.scale? g.value (some x) with
      | error e =>
        rw [hj] at habsorb heval htrail
        -- The seed of the group stays in its text, but a group that failed is not read again.
        rw [Script.run_nest_absorb_error hcall.groups_eq hout habsorb]
        refine .of_fault heval htrail ?_ rfl
        rw [List.filterMap_append, hnotes]
        rfl
      | ok w =>
        rw [hj] at habsorb heval htrail
        rw [Script.run_nest_ok hcall.groups_eq hout habsorb]
        have hvalues : (group op initial inner rest).steps.trail g.value =
            inner.trailFrom initial ++ [w] ++ rest.steps.trail (some w) := by
          rw [htrail, List.append_assoc]
          rfl
        refine .of_step _ _ heval hvalues ?_ ?_ (ih_rest hrest _ around (by simp))
        · rw [Group.ownText?_absorb hadditive]
          rw [Group.ownText?]
          cases htrace : g.trace with
          | none => rfl
          | some t => simp [Group.isTraced, htrace, text]
        · rw [List.filterMap_append, hnotes]
          rfl

end Formula

end ChainedDecimal
