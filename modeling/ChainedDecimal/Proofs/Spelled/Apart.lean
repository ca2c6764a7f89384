import ChainedDecimal.Proofs.Spelled.Parentheses

/-!
# The texts of the open scopes

All scopes of a chain write into one trace, and a unary step puts the text that it finds behind a
mark together. Yet it is as if each scope wrote into a buffer of its own, and the trace held these
buffers one behind the other. `OwnTexts` are the buffers. They are told from the calls alone: a
scope begins with its first value, a binary step is appended, a unary step stands around all there
is in the buffer, and a group that is closed is appended to the buffer of the scope around it.

## The invariant

`Apart` relates a trace to the buffers, from the exposed scope outwards. The trace as it stood when
a scope was opened is kept in the relation as a trace of its own. To this the mark of the scope
refers, and none of the steps behind the mark changes it.
-/

namespace ChainedDecimal

namespace Bracket

open Formula (openingText)

/-! ## A buffer for each scope -/

/-- An enclosing scope with a buffer of its own, and the group that is open in it. -/
structure OuterText where
  /-- What was written so far. -/
  text : String
  /-- The operator of the group. -/
  op : Operator
  /-- The scale that was given with it. -/
  scale : Argument

/-- The text of the enclosing scopes, each with what opened the group in it. -/
def outerText : List OuterText → String
  | [] => ""
  | o :: outers => outerText outers ++ o.text ++ o.op.openText

/-- The open scopes with a buffer for each. -/
structure OwnTexts where
  /-- The text of the exposed scope. -/
  exposed : String
  /-- The scopes around it, innermost first. -/
  around : List OuterText

namespace OwnTexts

/-- A chain that begins has one buffer. -/
def begin (initial : Argument) : OwnTexts := ⟨openingText "" initial, []⟩

/-- What a call that succeeds writes into the buffers. -/
def after (T : OwnTexts) : Call → OwnTexts
  | .binary op operand scale => { T with exposed := T.exposed ++ op.stepText operand.settled scale }
  | .unary op scale => { T with exposed := op.stepText T.exposed scale }
  | .openGroup op operand scale => ⟨openingText "" operand, ⟨T.exposed, op, scale⟩ :: T.around⟩
  | .close =>
    match T.around with
    | [] => T
    | o :: outers => ⟨o.text ++ o.op.groupText T.exposed o.scale, outers⟩

/-- The buffers one behind the other. -/
def whole (T : OwnTexts) : String := outerText T.around ++ T.exposed

end OwnTexts

/-! ## One trace for all -/

/-- A trace holds the buffers of the exposed scope and of the scopes around it. -/
inductive Apart : Trace → Scope → List Waiting → OwnTexts → Prop where
  /-- The root alone. -/
  | root {t : Trace} {scope : Scope} {own : String} (marked : t.Marked scope.start [] own) :
    Apart t scope [] ⟨own, []⟩
  /-- A scope in a group, and the trace that the group was opened in. -/
  | nested {t outer : Trace} {scope : Scope} {w : Waiting} {rest : List Waiting} {T : OwnTexts}
    {own : String} {scale : Argument} (around : Apart outer w.scope rest T)
    (start_eq : scope.start = (outer.openGroup w.pending).mark)
    (marked : t.Marked scope.start (outer.openGroup w.pending).parts own)
    (closeText_eq : w.pending.closeText (.ofInt? w.scale) = w.pending.closeText scale) :
    Apart t scope (w :: rest) ⟨own, ⟨T.exposed, w.pending, scale⟩ :: T.around⟩

namespace Apart

variable {t : Trace} {scope : Scope} {enclosing : List Waiting} {T : OwnTexts}

/-- Behind the mark of the exposed scope stands its own buffer, and may be replaced. -/
theorem exists_marked (h : Apart t scope enclosing T) :
    ∃ before, t.Marked scope.start before T.exposed ∧ String.join before = outerText T.around ∧
      ∀ {t' own} v, t'.Marked scope.start before own →
        Apart t' { scope with value := v } enclosing { T with exposed := own } := by
  induction h with
  | root marked => exact ⟨[], marked, rfl, fun v hown ↦ .root hown⟩
  | @nested t outer scope w rest T own scale around start_eq marked closeText_eq ih =>
    obtain ⟨before, houter, hbefore, -⟩ := ih
    refine ⟨_, marked, ?_, fun v hown ↦ .nested around start_eq hown closeText_eq⟩
    have hparts : String.join outer.parts = String.join before ++ T.exposed := by
      rw [← houter.join_eq, ← houter.take_eq, ← String.join_append, List.take_append_drop]
    rw [Trace.openGroup, Trace.parts_push, String.join_append, hparts, hbefore, outerText]
    simp [String.join_cons]

/-- The trace is made of the buffers. -/
theorem render_eq (h : Apart t scope enclosing T) : t.render = T.whole := by
  obtain ⟨before, hmarked, hbefore, -⟩ := h.exists_marked
  rw [OwnTexts.whole, ← hbefore, ← hmarked.join_eq, ← hmarked.take_eq, ← String.join_append,
    List.take_append_drop, Trace.render]

/-- What stands behind the mark of the exposed scope is its buffer. -/
theorem join_drop_eq (h : Apart t scope enclosing T) :
    String.join (t.parts.drop scope.start) = T.exposed := by
  obtain ⟨before, hmarked, -, -⟩ := h.exists_marked
  exact hmarked.join_eq

/-- The groups are those that the enclosing scopes wait for. -/
theorem map_op_eq (h : Apart t scope enclosing T) :
    T.around.map OuterText.op = enclosing.map Waiting.pending := by
  induction h with
  | root => rfl
  | nested _ _ _ _ ih => rw [List.map_cons, List.map_cons, ih]

end Apart

namespace Chain

/-- If the chain is traced, then its trace holds these buffers. -/
def WritesApart (c : Chain) (T : OwnTexts) : Prop :=
  ∀ t, c.trace = some t → Apart t c.exposed c.enclosing T

variable {c c' : Chain} {T : OwnTexts}

theorem writesApart_begin {initial : Argument} {traced : Bool} (h : begin initial traced = .ok c) :
    c.WritesApart (.begin initial) := by
  obtain ⟨value, hvalue, rfl⟩ := Fault.map_eq_ok.1 h
  intro t ht
  cases traced with
  | false => cases ht
  | true =>
    cases ht
    have hfirst := Trace.Marked.first .empty initial rfl
    rw [hvalue, ← Trace.ofValue?_eq] at hfirst
    exact .root hfirst

namespace WritesApart

/-- A scope that is opened has a buffer with its first value. -/
theorem opened (h : c.WritesApart T) {op : Operator} {operand scale : Argument} {s : Option Int}
    {value : Option Decimal} (hscale : openingScale op scale = .ok s)
    (hoperand : operand.toDecimal? = .ok value) :
    (c.opened op s value).WritesApart (T.after (.openGroup op operand scale)) := by
  intro t' ht'
  obtain ⟨t, ht, rfl⟩ := Option.map_eq_some_iff.1 ht'
  have hmark : openedMark op c.trace = (t.openGroup op).mark := by rw [ht, openedMark]
  have hfirst := Trace.Marked.first (t.openGroup op) operand rfl
  rw [hoperand, ← openedTrace_eq, ← hmark] at hfirst
  rw [← groupScale_eq_openingScale] at hscale
  exact .nested (w := ⟨c.exposed, op, s⟩) (h t ht) hmark hfirst (closeText_of_groupScale hscale)

/-- When a group is closed its buffer goes into that of the scope around it. -/
theorem closedInto (h : c.WritesApart T) {w : Waiting} {rest : List Waiting}
    (henc : c.enclosing = w :: rest) (v : Decimal) :
    (c.closedInto w rest v).WritesApart (T.after .close) := by
  intro t' ht'
  obtain ⟨t, ht, rfl⟩ := Option.map_eq_some_iff.1 ht'
  have hopen := h t ht
  rw [henc] at hopen
  cases hopen with
  | @nested _ outer _ _ _ T own scale around start_eq marked closeText_eq =>
    obtain ⟨before, houter, -, hreplace⟩ := around.exists_marked
    rw [start_eq] at marked
    have hgroup := hreplace (some v) (houter.group marked (.ofInt? w.scale))
    rwa [Operator.groupText, closeText_eq] at hgroup

/-- Every move writes into the buffers what it should. -/
theorem move (h : c.WritesApart T) {call : Call} (hm : Move c call c') :
    c'.WritesApart (T.after call) := by
  cases hm with
  | @binary op operand scale x v w operand_ok =>
    intro t' ht'
    obtain ⟨t, ht, rfl⟩ := Option.map_eq_some_iff.1 ht'
    obtain ⟨before, hmarked, -, hreplace⟩ := (h t ht).exists_marked
    have hsettled : operand.settled = .decimal x := by rw [Argument.settled, operand_ok]
    rw [OwnTexts.after, hsettled]
    exact hreplace (some w) (hmarked.push _)
  | @unary op scale v w =>
    intro t' ht'
    obtain ⟨t, ht, rfl⟩ := Option.map_eq_some_iff.1 ht'
    obtain ⟨before, hmarked, -, hreplace⟩ := (h t ht).exists_marked
    exact hreplace (some w) (hmarked.unary op scale)
  | openGroup scale_ok operand_ok => exact h.opened scale_ok operand_ok
  | close enclosing_eq => exact h.closedInto enclosing_eq _

end WritesApart

/-- The trace of a chain is made of the buffers of its open scopes, and scopes do not get into each
other's way in it. -/
structure KeepsApart (c : Chain) (t : Trace) (T : OwnTexts) : Prop where
  /-- The enclosing scopes wait with the operators that their groups were opened under. -/
  map_op_eq : T.around.map OuterText.op = c.enclosing.map Waiting.pending
  /-- The text is that of the buffers with what opened the groups between them. -/
  render_eq : t.render = T.whole
  /-- Behind the mark of the exposed scope stands its own buffer and nothing else. -/
  join_drop_eq : String.join (t.parts.drop c.exposed.start) = T.exposed
  /-- A unary step stands around this buffer, and leaves all that is before it. -/
  unary : ∀ {op : UnaryOp} {scale : Argument} {c' : Chain}, c.act (.unary op scale) = .ok c' →
    ∃ t', c'.trace = some t' ∧
      t'.parts.take c.exposed.start = t.parts.take c.exposed.start ∧
      t'.render = outerText T.around ++ op.stepText T.exposed scale
  /-- One parenthesis is open for each scope around the exposed one. -/
  leavesOpen : LeavesOpen c.exposedView.depth t.render.toList

/-- **The trace keeps the open scopes apart.** -/
theorem WritesApart.keepsApart (h : c.WritesApart T) (htells : c.TraceTells) {t : Trace}
    (ht : c.trace = some t) : c.KeepsApart t T := by
  have hapart := h t ht
  refine ⟨hapart.map_op_eq, hapart.render_eq, hapart.join_drop_eq, fun {op scale c'} hact ↦ ?_,
    htells.leavesOpen ht⟩
  have hm := act_eq_ok_iff.1 hact
  have hafter := h.move hm
  obtain ⟨before, hmarked, -, -⟩ := hapart.exists_marked
  have htrace : c'.trace = some (t.unary op scale c.exposed.start) := by
    cases hm with
    | unary => exact congrArg (Option.map _) ht
  exact ⟨_, htrace, (hmarked.unary op scale).take_eq.trans hmarked.take_eq.symm,
    (hafter _ htrace).render_eq⟩

end Chain

end Bracket

end ChainedDecimal
