import ChainedDecimal.Closure.Chain
import ChainedDecimal.Proofs.Bracket.Meaning

/-!
# Formulas that both kinds of chains can carry out

A formula of plain steps and groups under binary operators can be written with parentheses that are
opened and closed, and with callables that build the groups. This file says what is written in
either case, and what is common to both: the meaning, which is that of the bracketed steps, and the
text.

## Where a scope begins

Both kinds agree on scopes that begin with an operand. Without one a scope has to begin with a group
to be added or subtracted: then one kind counts the missing value as zero, and the other starts from
the seed of the operator, which is zero too. The texts differ there. One of them shows the seed, and
that is all that `seed` stands for in `text`.
-/

namespace ChainedDecimal

open ChainedDecimal.Bracket

/-- The operators that a group may be joined by, a division with its scale. -/
inductive GroupOp where
  | add
  | subtract
  | multiply
  | divide (scale : Int)
deriving DecidableEq

namespace GroupOp

/-- The operator without its scale. -/
def op : GroupOp → BinaryOp
  | .add => .add
  | .subtract => .subtract
  | .multiply => .multiply
  | .divide _ => .divide

/-- The scale. -/
def scale? : GroupOp → Option Int
  | .divide n => some n
  | _ => none

/-- The scale as it is handed over. -/
def scale (g : GroupOp) : Argument := .ofInt? g.scale?

/-- Whether a scope without a value may begin with the group. -/
def isAdditive : GroupOp → Bool
  | .add | .subtract => true
  | _ => false

theorem groupScale_eq (g : GroupOp) : Steps.groupScale (.binary g.op) g.scale = .ok g.scale? := by
  cases g <;> rfl

/-- A missing value is the seed where a scope may begin without one. -/
theorem seed_of_isAdditive {g : GroupOp} (h : g.isAdditive = true) : g.op.seed = .zero := by
  cases g with
  | add => rfl
  | subtract => rfl
  | multiply => cases h
  | divide n => cases h

theorem grouped_eq (g : GroupOp) (v : Option Decimal) (x : Decimal) :
    Steps.grouped (.binary g.op) g.scale? v (some x) = g.op.apply (v.getD .zero) x g.scale := by
  cases g with
  | divide n =>
    simp [Steps.grouped, op, scale?, scale, BinaryOp.apply, Argument.ofInt?, Except.bind]
  | _ => simp [Steps.grouped, op, scale?, BinaryOp.apply]

end GroupOp

/-- The steps of a scope, in order. -/
inductive Formula where
  /-- No more steps. -/
  | done
  /-- A value is joined with an operand. -/
  | plain (op : BinaryOp) (operand scale : Argument) (rest : Formula)
  /-- A value is changed. -/
  | unary (op : UnaryOp) (scale : Argument) (rest : Formula)
  /-- A value is joined with a group, which has steps of its own and begins with an operand unless
  that is absent. -/
  | group (op : GroupOp) (initial : Argument) (inner rest : Formula)
deriving DecidableEq

namespace Formula

/-- A scope begins with an operand, or with a group to be added or subtracted. -/
def Begins (initial : Argument) : Formula → Prop
  | .group op _ _ _ => initial ≠ .absent ∨ op.isAdditive = true
  | _ => initial ≠ .absent

instance decidableBegins (initial : Argument) : (f : Formula) → Decidable (f.Begins initial)
  | .group _ _ _ _ => inferInstanceAs (Decidable (_ ∨ _))
  | .done | .plain _ _ _ _ | .unary _ _ _ => inferInstanceAs (Decidable (_ ≠ _))

/-- All groups begin as they should. -/
def Grounded : Formula → Prop
  | .done => True
  | .plain _ _ _ rest => rest.Grounded
  | .unary _ _ rest => rest.Grounded
  | .group _ initial inner rest => inner.Begins initial ∧ inner.Grounded ∧ rest.Grounded

instance decidableGrounded : (f : Formula) → Decidable f.Grounded
  | .done => isTrue trivial
  | .plain _ _ _ rest => decidableGrounded rest
  | .unary _ _ rest => decidableGrounded rest
  | .group _ _ inner rest =>
    have := decidableGrounded inner
    have := decidableGrounded rest
    inferInstanceAs (Decidable (_ ∧ _ ∧ _))

/-- The steps with parentheses. -/
def steps : Formula → Steps
  | .done => .done
  | .plain op operand scale rest => .binary op operand scale rest.steps
  | .unary op scale rest => .unary op scale rest.steps
  | .group op initial inner rest =>
    .group (.binary op.op) initial op.scale inner.steps rest.steps

/-- The steps that a callable does to its group. -/
def script : Formula → Closure.Script
  | .done => .finish (.reachable 0)
  | .plain op operand scale rest => .plain (.binary op operand scale) 0 false rest.script
  | .unary op scale rest => .plain (.unary op scale) 0 false rest.script
  | .group op initial inner rest =>
    .nest op.op (if initial = .absent then inner.script
      else .plain (.begin initial) 0 false inner.script) op.scale 0 false rest.script

/-- A callable that builds a group, beginning with an operand unless that is absent. -/
def callable (initial : Argument) (f : Formula) : Closure.Script :=
  if initial = .absent then f.script else .plain (.begin initial) 0 false f.script

theorem script_group (op : GroupOp) (initial : Argument) (inner rest : Formula) :
    (group op initial inner rest).script =
      .nest op.op (inner.callable initial) op.scale 0 false rest.script := rfl

/-! ## The text -/

/-- The text that a scope begins with: its operand, or else the seed. -/
def openingText (seed : String) (initial : Argument) : String :=
  match initial.toDecimal? with
  | .ok (some x) => x.text
  | _ => seed

/-- The text of a scope, given that of the scope so far. -/
def text (seed : String) : Formula → String → String
  | .done, own => own
  | .plain op operand scale rest, own =>
    rest.text seed (own ++ op.stepText operand.settled scale)
  | .unary op scale rest, own => rest.text seed (op.stepText own scale)
  | .group op initial inner rest, own =>
    rest.text seed (own ++
      (Operator.binary op.op).groupText (inner.text seed (openingText seed initial)) op.scale)

/-- Every group begins with an operand. -/
def AllOpened : Formula → Prop
  | .done => True
  | .plain _ _ _ rest => rest.AllOpened
  | .unary _ _ rest => rest.AllOpened
  | .group _ initial inner rest =>
    (∃ x, initial.toDecimal? = .ok (some x)) ∧ inner.AllOpened ∧ rest.AllOpened

theorem openingText_congr {initial : Argument} (h : ∃ x, initial.toDecimal? = .ok (some x))
    (seed seed' : String) : openingText seed initial = openingText seed' initial := by
  obtain ⟨x, hx⟩ := h
  rw [openingText, openingText, hx]

/-- Where every group begins with an operand the seed does not show. -/
theorem text_congr {f : Formula} (h : f.AllOpened) (seed seed' own : String) :
    f.text seed own = f.text seed' own := by
  induction f generalizing own with
  | done => rfl
  | plain op operand scale rest ih => exact ih h _
  | unary op scale rest ih => exact ih h _
  | group op initial inner rest ih_inner ih_rest =>
    obtain ⟨hinitial, hinner, hrest⟩ := h
    rw [text, text, openingText_congr hinitial seed seed', ih_inner hinner, ih_rest hrest]

end Formula

/-! ## The text that brackets record -/

namespace Trace

/-- Behind the mark of a scope stands the scope's own text, and before it what stood there when the
scope was opened. -/
structure Marked (t : Trace) (start : Nat) (before : List String) (own : String) : Prop where
  /-- The mark is within the trace. -/
  start_le : start ≤ t.parts.length
  /-- The parts before the mark. -/
  take_eq : t.parts.take start = before
  /-- The text behind it. -/
  join_eq : String.join (t.parts.drop start) = own

namespace Marked

variable {t t' : Trace} {start : Nat} {before : List String} {own own' : String}

theorem push (h : t.Marked start before own) (x : String) :
    (t.push x).Marked start before (own ++ x) := by
  have hle := h.start_le
  constructor
  · rw [parts_push, List.length_append]
    omega
  · rw [parts_push, List.take_append_of_le_length hle, h.take_eq]
  · rw [parts_push, List.drop_append_of_le_length hle, String.join_append, h.join_eq]
    simp

theorem unary (h : t.Marked start before own) (op : UnaryOp) (scale : Argument) :
    (t.unary op scale start).Marked start before (op.stepText own scale) := by
  have hlen : (t.parts.take start).length = start := by
    rw [List.length_take]
    exact Nat.min_eq_left h.start_le
  have hge : start ≤ (t.parts.take start).length := Nat.le_of_eq hlen.symm
  have hle : (t.parts.take start).length ≤ start := Nat.le_of_eq hlen
  constructor
  · rw [Trace.unary, List.length_append, hlen]
    exact Nat.le_add_right _ _
  · rw [Trace.unary, List.take_append_of_le_length hge, ← h.take_eq, List.take_of_length_le hle]
  · rw [Trace.unary, List.drop_append_of_le_length hge, List.drop_of_length_le hle, h.join_eq]
    simp

/-- A scope that starts here and now has no text yet. -/
theorem here (t : Trace) : t.Marked t.mark t.parts "" := by
  constructor
  · exact Nat.le_refl _
  · exact List.take_length
  · rw [mark, List.drop_length]
    rfl

/-- The text of a nested scope belongs to the text of the scope around it. -/
theorem nested (h : t.Marked start before own) (h' : t'.Marked t.mark t.parts own') :
    t'.Marked start before (own ++ own') := by
  have hparts : t'.parts = t.parts ++ t'.parts.drop t.mark := by
    rw [← h'.take_eq, List.take_append_drop]
  have hle := h.start_le
  constructor
  · exact Nat.le_trans hle h'.start_le
  · rw [hparts, List.take_append_of_le_length hle, h.take_eq]
  · rw [hparts, List.drop_append_of_le_length hle, String.join_append, h.join_eq, h'.join_eq]

/-- A scope that starts with an operand, or with nothing. -/
theorem first (t : Trace) (initial : Argument) {first : Option Decimal}
    (h : initial.toDecimal?.toOption.join = first) :
    (first.elim t fun x ↦ t.operand (.decimal x)).Marked t.mark t.parts
      (Formula.openingText "" initial) := by
  rw [Formula.openingText]
  subst h
  cases initial.toDecimal? with
  | error e => exact here t
  | ok first =>
    cases first with
    | none => exact here t
    | some x =>
      have hpush := (here t).push x.text
      rwa [String.empty_append] at hpush

/-- A group that was closed belongs to the text of the scope that it was opened in. Until then it
had a mark of its own, behind the text that opened it. -/
theorem group (h : t.Marked start before own) {op : Operator}
    (h' : t'.Marked (t.openGroup op).mark (t.openGroup op).parts own') (scale : Argument) :
    (t'.closeGroup op scale).Marked start before (own ++ op.groupText own' scale) := by
  have hclose := ((h.push op.openText).nested h').push (op.closeText scale)
  simpa only [closeGroup, Operator.groupText, String.append_assoc] using hclose

end Marked

end Trace

theorem Bracket.Chain.openedTrace_eq (op : Operator) (first : Option Decimal) (t : Trace) :
    openedTrace op first t =
      first.elim (t.openGroup op) fun x ↦ (t.openGroup op).operand (.decimal x) := by
  cases first <;> rfl

theorem Trace.ofValue?_eq (first : Option Decimal) :
    ofValue? first = first.elim empty fun x ↦ empty.operand (.decimal x) := by
  cases first <;> rfl

namespace Formula

/-- What is recorded for a scope is its text. -/
theorem marked_record (f : Formula) {t : Trace} {start : Nat} {before : List String} {own : String}
    (h : t.Marked start before own) :
    (f.steps.record start t).Marked start before (f.text "" own) := by
  induction f generalizing t start before own with
  | done => exact h
  | plain op operand scale rest ih => exact ih (h.push _)
  | unary op scale rest ih => exact ih (h.unary op scale)
  | group op initial inner rest ih_inner ih_rest =>
    have hfirst := Trace.Marked.first (t.openGroup (.binary op.op)) initial rfl
    rw [← Chain.openedTrace_eq] at hfirst
    exact ih_rest (h.group (ih_inner hfirst) op.scale)

/-- The whole text that brackets record. -/
theorem render_record (f : Formula) (initial : Argument) :
    (f.steps.record 0 (.ofValue? initial.toDecimal?.toOption.join)).render =
      f.text "" (openingText "" initial) := by
  have hfirst := Trace.Marked.first .empty initial rfl
  rw [← Trace.ofValue?_eq] at hfirst
  exact (f.marked_record hfirst).join_eq

end Formula

end ChainedDecimal
