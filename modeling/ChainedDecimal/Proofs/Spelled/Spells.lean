import ChainedDecimal.Proofs.Bracket.Scopes
import ChainedDecimal.Proofs.Spelled.Reading

/-!
# What the text of a scope says

A text says that a scope has a value if it is the text of a phrase with that value. It can say so of
one value only. And it goes on saying so of whatever a scope has come to, as its steps are recorded:
there is a lemma for each kind of step.
-/

namespace ChainedDecimal

open ChainedDecimal.Bracket (foldGroup)

/-- The text of a scope says that the scope has this value, or that it has none. -/
def Spells (text : String) (value : Option Decimal) : Prop :=
  ∃ (first : Option Decimal) (p : Phrase),
    text.toList = firstChars first ++ p.chars ∧ p.value first = .ok value

/-- The scale of a group that was closed was there exactly if the operator takes one. -/
theorem Enclosure.exists_of_foldGroup {op : Operator} {scale : Option Int}
    {outer inner : Option Decimal} {w : Decimal} (hscale : scale.isSome → op.needsScale = true)
    (h : foldGroup op scale outer inner = .ok w) :
    ∃ e : Enclosure, e.operator = op ∧ e.scale? = scale := by
  obtain ⟨hneeds, -⟩ := Fault.check_eq_ok.1 h
  refine exists_eq ?_
  cases scale with
  | none => simpa using hneeds
  | some n => simpa using hscale

/-- What succeeds with a scale was given an integer for it. -/
theorem Argument.eq_int_of_bind {α : Type} {scale : Argument} {k : Int → Except Fault α} {a : α}
    (h : scale.toScale.bind k = .ok a) : ∃ n, scale = .int n := by
  cases scale with
  | int n => exact ⟨n, rfl⟩
  | _ => cases h

/-- A binary operator that was carried out had a scale if it takes one, and shows no other. -/
theorem BinaryOp.exists_groupOp {op : BinaryOp} {v x w : Decimal} {scale : Argument}
    (h : op.apply v x scale = .ok w) :
    ∃ g : GroupOp, g.op = op ∧ g.op.apply v x g.scale = .ok w ∧
      (∀ a, op.stepText a scale = g.op.stepText a g.scale) ∧
      (Operator.binary op).closeText scale = (Operator.binary g.op).closeText g.scale := by
  cases op with
  | add => exact ⟨.add, rfl, h, fun _ ↦ rfl, rfl⟩
  | subtract => exact ⟨.subtract, rfl, h, fun _ ↦ rfl, rfl⟩
  | multiply => exact ⟨.multiply, rfl, h, fun _ ↦ rfl, rfl⟩
  | divide =>
    obtain ⟨n, rfl⟩ := Argument.eq_int_of_bind h
    exact ⟨.divide n, rfl, h, fun _ ↦ rfl, rfl⟩

theorem foldGroup_unary {op : UnaryOp} {scale : Option Int} {v w : Decimal}
    (hscale : scale.isSome = op.needsScale) (h : op.apply v (.ofInt? scale) = .ok w)
    (outer : Option Decimal) : foldGroup (.unary op) scale outer (some v) = .ok w := by
  refine Fault.check_eq_ok.2 ⟨?_, h⟩
  rw [Operator.needsScale, ← hscale]
  cases scale <;> simp

theorem foldGroup_binary {op : BinaryOp} {scale : Option Int} {v w : Decimal}
    {outer : Option Decimal} (hscale : scale.isSome = op.needsScale)
    (h : op.apply (outer.getD .zero) v (.ofInt? scale) = .ok w) :
    foldGroup (.binary op) scale outer (some v) = .ok w := by
  refine Fault.check_eq_ok.2 ⟨?_, h⟩
  rw [Operator.needsScale, ← hscale]
  cases scale <;> simp

/-- A unary step that was carried out stands around what there was as a group under its operator
does. -/
theorem UnaryOp.exists_enclosure {op : UnaryOp} {v w : Decimal} {scale : Argument}
    (h : op.apply v scale = .ok w) :
    ∃ e : Enclosure, e.operator = .unary op ∧
      foldGroup e.operator e.scale? none (some v) = .ok w ∧
      ∀ own, op.stepText own scale = e.operator.groupText own (.ofInt? e.scale?) := by
  cases op with
  | negate =>
    refine ⟨.negate, rfl, foldGroup_unary rfl h none, fun own ↦ ?_⟩
    simp [UnaryOp.stepText, Operator.groupText, Operator.openText, Operator.closeText,
      Enclosure.operator]
  | absolute =>
    refine ⟨.absolute, rfl, foldGroup_unary rfl h none, fun own ↦ ?_⟩
    simp [UnaryOp.stepText, Operator.groupText, Operator.openText, Operator.closeText,
      Enclosure.operator]
  | round =>
    obtain ⟨n, rfl⟩ := Argument.eq_int_of_bind h
    refine ⟨.round n, rfl, foldGroup_unary rfl h none, fun own ↦ ?_⟩
    simp [UnaryOp.stepText, Operator.groupText, Operator.openText, Operator.closeText,
      Enclosure.operator, Enclosure.scale?, Argument.ofInt?, String.append_assoc]

/-- A whole text is read in one way. -/
theorem Phrase.firstChars_append_chars_inj {first first' : Option Decimal} {p q : Phrase}
    (h : firstChars first ++ p.chars = firstChars first' ++ q.chars) : first = first' ∧ p = q := by
  have hnil : Closes [] := fun c hc ↦ by cases hc
  have heq : firstChars first ++ (p.chars ++ []) = firstChars first' ++ (q.chars ++ []) := by
    rw [List.append_nil, List.append_nil, h]
  obtain ⟨rfl, hbehind⟩ := firstChars_append_inj (p.follows_chars_append hnil)
    (q.follows_chars_append hnil) heq
  obtain ⟨rfl, -⟩ := Phrase.chars_append_inj hnil hnil hbehind
  exact ⟨rfl, rfl⟩

/-- The text of a group is that of a phrase. -/
theorem Phrase.toList_groupText {e : Enclosure} {first : Option Decimal} {p : Phrase}
    {inner : String} (h : inner.toList = firstChars first ++ p.chars) :
    (e.operator.groupText inner (.ofInt? e.scale?)).toList = (group e first p .done).chars := by
  rw [Operator.groupText, String.toList_append, String.toList_append, h,
    Operator.toList_openText, e.toList_closeText]
  simp [chars]

/-- The text of a plain step is that of a phrase. -/
theorem Phrase.toList_stepText (g : GroupOp) (x : Decimal) :
    (g.op.stepText (.decimal x) g.scale).toList = (step g x .done).chars := by
  rw [g.toList_stepText]
  simp [chars]

namespace Spells

variable {own inner : String} {u v : Option Decimal} {w x y : Decimal}

/-- **The text of a scope determines its value.** -/
theorem unique (h : Spells own v) (h' : Spells own u) : v = u := by
  obtain ⟨first, p, htext, hvalue⟩ := h
  obtain ⟨first', q, htext', hvalue'⟩ := h'
  obtain ⟨rfl, rfl⟩ := Phrase.firstChars_append_chars_inj (htext.symm.trans htext')
  rw [hvalue] at hvalue'
  exact Except.ok.inj hvalue'

/-- A scope without a value has no text. -/
theorem eq_empty (h : Spells own none) : own = "" := by
  obtain ⟨first, p, htext, hvalue⟩ := h
  obtain ⟨rfl, rfl⟩ := Phrase.eq_done_of_value hvalue
  exact String.toList_inj.1 htext

theorem empty : Spells "" none := ⟨none, .done, rfl, rfl⟩

theorem first (x : Decimal) : Spells x.text (some x) :=
  ⟨some x, .done, by simp [Decimal.text, firstChars, Phrase.chars], rfl⟩

/-- A part of a text behind another one. -/
theorem append {p : Phrase} {part : String} (h : Spells own v) (hpart : part.toList = p.chars)
    (hvalue : p.value v = .ok u) : Spells (own ++ part) u := by
  obtain ⟨first, q, htext, hq⟩ := h
  refine ⟨first, q.append p, ?_, ?_⟩
  · rw [String.toList_append, htext, hpart, Phrase.chars_append, List.append_assoc]
  · rw [Phrase.value_append]
    exact Fault.bind_eq_ok.2 ⟨v, hq, hvalue⟩

/-- A plain step is appended. -/
theorem step {op : BinaryOp} {scale : Argument} (h : Spells own (some y))
    (happly : op.apply y x scale = .ok w) :
    Spells (own ++ op.stepText (.decimal x) scale) (some w) := by
  obtain ⟨g, -, hg, htext, -⟩ := BinaryOp.exists_groupOp happly
  refine h.append (p := .step g x .done) ?_ ?_
  · rw [htext, Phrase.toList_stepText]
  · exact Fault.bind_eq_ok.2 ⟨y, rfl, Fault.bind_eq_ok.2 ⟨w, hg, rfl⟩⟩

/-- A group is appended. -/
theorem group {e : Enclosure} (h : Spells own v) (hinner : Spells inner u)
    (hfold : foldGroup e.operator e.scale? v u = .ok w) :
    Spells (own ++ e.operator.groupText inner (.ofInt? e.scale?)) (some w) := by
  obtain ⟨first, p, htext, hp⟩ := hinner
  refine h.append (Phrase.toList_groupText htext) ?_
  exact Fault.bind_eq_ok.2 ⟨u, hp, Fault.bind_eq_ok.2 ⟨w, hfold, rfl⟩⟩

/-- A unary step stands around what there was. -/
theorem unary {op : UnaryOp} {scale : Argument} (h : Spells own (some y))
    (happly : op.apply y scale = .ok w) : Spells (op.stepText own scale) (some w) := by
  obtain ⟨e, -, hfold, htext⟩ := UnaryOp.exists_enclosure happly
  have hgroup := empty.group h hfold
  rwa [String.empty_append, ← htext] at hgroup

/-- A group whose value joins the one before it. -/
theorem absorb {op : BinaryOp} {scale : Argument} (h : Spells own (some y))
    (hinner : Spells inner (some x)) (happly : op.apply y x scale = .ok w) :
    Spells (own ++ (Operator.binary op).groupText inner scale) (some w) := by
  obtain ⟨g, rfl, hg, -, hclose⟩ := BinaryOp.exists_groupOp happly
  have hfold : foldGroup (.binary g.op) g.scale? (some y) (some x) = .ok w := by
    refine foldGroup_binary ?_ hg
    cases g <;> rfl
  rw [Operator.groupText, hclose]
  exact h.group (e := .binary g) hinner hfold

end Spells

end ChainedDecimal
