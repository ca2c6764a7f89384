import ChainedDecimal.Proofs.Spelled.Bracket
import ChainedDecimal.Proofs.Spelled.Infix

/-!
# When the text of a chain is an infix expression

The text of a bracketed chain is an infix expression exactly if every group in it was opened in
place: under a binary operator where its scope had a value, and under another operator where it had
none. Once a group was opened elsewhere no later step makes up for it, for nothing that was recorded
is ever taken back.

While parentheses are open this is said of the text of each open scope, and of the groups that are
not closed yet. A step changes the text of the exposed scope only, so of all the others it is
enough to know that they are where they were.
-/

namespace ChainedDecimal

open ChainedDecimal.Bracket

/-! ## Texts -/

/-- All groups in the text of a scope are in place. -/
def TextInPlace (text : String) : Prop :=
  ∃ (first : Option Decimal) (p : Phrase),
    text.toList = firstChars first ++ p.chars ∧ p.InPlace first.isSome

theorem textInPlace_iff {text : String} {first : Option Decimal} {p : Phrase}
    (h : text.toList = firstChars first ++ p.chars) :
    TextInPlace text ↔ p.InPlace first.isSome := by
  constructor
  · rintro ⟨first', q, htext, hplace⟩
    obtain ⟨rfl, rfl⟩ := Phrase.firstChars_append_chars_inj (h.symm.trans htext)
    exact hplace
  · intro hplace
    exact ⟨first, p, h, hplace⟩

theorem textInPlace_empty : TextInPlace "" := ⟨none, .done, rfl, trivial⟩

theorem textInPlace_first (x : Decimal) : TextInPlace x.text :=
  ⟨some x, .done, by simp [Decimal.text, firstChars, Phrase.chars], trivial⟩

namespace Spells

variable {own inner part : String} {u v : Option Decimal} {w x y : Decimal}

/-- Where there is a value, the text is that of an expression exactly if all groups are in place. -/
theorem exists_infix_iff (h : Spells own (some w)) :
    (∃ e : Infix, e.text = own) ↔ TextInPlace own := by
  constructor
  · rintro ⟨e, rfl⟩
    exact (textInPlace_iff e.toList_text).2 e.inPlace_phrase
  · intro hplace
    obtain ⟨first, p, htext, hvalue⟩ := h
    rw [textInPlace_iff htext] at hplace
    obtain ⟨e, rfl, rfl⟩ := Infix.exists_of_first hplace hvalue
    exact ⟨e, String.toList_inj.1 (e.toList_text.trans htext.symm)⟩

/-- An expression with the text of a scope has the value of the scope. -/
theorem value_infix {e : Infix} (h : Spells e.text (some w)) : e.value = .ok w := by
  obtain ⟨first, p, htext, hvalue⟩ := h
  obtain ⟨rfl, rfl⟩ := Phrase.firstChars_append_chars_inj (htext.symm.trans e.toList_text)
  rw [e.value_phrase] at hvalue
  obtain ⟨v, hv, hvw⟩ := Fault.map_eq_ok.1 hvalue
  rw [hv, Option.some.inj hvw]

/-- A part of a text behind another one. -/
theorem textInPlace_append {p : Phrase} (h : Spells own v) (hpart : part.toList = p.chars) :
    TextInPlace (own ++ part) ↔ TextInPlace own ∧ p.InPlace v.isSome := by
  obtain ⟨first, q, htext, hvalue⟩ := h
  have hboth : (own ++ part).toList = firstChars first ++ (q.append p).chars := by
    rw [String.toList_append, htext, hpart, Phrase.chars_append, List.append_assoc]
  rw [textInPlace_iff hboth, textInPlace_iff htext, Phrase.inPlace_append,
    Phrase.isSome_of_value_eq hvalue]

theorem textInPlace_step {op : BinaryOp} {scale : Argument} (h : Spells own (some y))
    (happly : op.apply y x scale = .ok w) :
    TextInPlace (own ++ op.stepText (.decimal x) scale) ↔ TextInPlace own := by
  obtain ⟨g, -, -, htext, -⟩ := BinaryOp.exists_groupOp happly
  rw [htext, h.textInPlace_append (Phrase.toList_stepText g x)]
  exact and_iff_left ⟨rfl, trivial⟩

/-- A group is in place if it is joined to a value, or if there is none. -/
theorem textInPlace_group (e : Enclosure) (h : Spells own v) (hinner : Spells inner u) :
    TextInPlace (own ++ e.operator.groupText inner (.ofInt? e.scale?)) ↔
      TextInPlace own ∧ e.operator.joins = v.isSome ∧ TextInPlace inner := by
  obtain ⟨first, p, htext, -⟩ := hinner
  rw [h.textInPlace_append (Phrase.toList_groupText htext), textInPlace_iff htext]
  exact and_congr_right fun _ ↦ and_congr_right fun _ ↦ and_iff_left trivial

/-- A unary step stands around all that there was. -/
theorem textInPlace_unary {op : UnaryOp} {scale : Argument} (h : Spells own (some y))
    (happly : op.apply y scale = .ok w) :
    TextInPlace (op.stepText own scale) ↔ TextInPlace own := by
  obtain ⟨e, hop, -, htext⟩ := UnaryOp.exists_enclosure happly
  have hgroup := empty.textInPlace_group e h
  rw [String.empty_append, ← htext, hop] at hgroup
  rw [hgroup, and_iff_right textInPlace_empty]
  exact and_iff_right rfl

end Spells

/-! ## Chains -/

namespace Bracket

/-- The groups that are open are in place, and so are those in the texts around the exposed scope,
which are recorded in the parts before it. -/
def AroundInPlace : List String → List Waiting → Prop
  | _, [] => True
  | before, w :: rest =>
    w.pending.joins = w.scope.value.isSome ∧
      TextInPlace (String.join (before.dropLast.drop w.scope.start)) ∧
      AroundInPlace (before.dropLast.take w.scope.start) rest

/-- So are those in the text of the exposed scope. -/
def OpenInPlace (parts : List String) (scope : Scope) (enclosing : List Waiting) : Prop :=
  TextInPlace (String.join (parts.drop scope.start)) ∧
    AroundInPlace (parts.take scope.start) enclosing

theorem openInPlace_append {before own : List String} {scope : Scope} {enclosing : List Waiting}
    (h : before.length = scope.start) :
    OpenInPlace (before ++ own) scope enclosing ↔
      TextInPlace (String.join own) ∧ AroundInPlace before enclosing := by
  rw [OpenInPlace, ← h, List.drop_left, List.take_left]

theorem aroundInPlace_concat {outer : List String} {opening : String} {w : Waiting}
    {rest : List Waiting} :
    AroundInPlace (outer ++ [opening]) (w :: rest) ↔
      w.pending.joins = w.scope.value.isSome ∧ OpenInPlace outer w.scope rest := by
  rw [AroundInPlace, List.dropLast_concat, OpenInPlace]

/-- Whether a call, on a scope with this value, opens no group out of place. -/
def Call.InPlace (value : Option Decimal) : Call → Prop
  | .openGroup op _ _ => op.joins = value.isSome
  | _ => True

namespace Chain

/-- The chain is traced, and every group that was opened was opened in place. -/
def InPlace (c : Chain) : Prop :=
  ∃ t, c.trace = some t ∧ OpenInPlace t.parts c.exposed c.enclosing

variable {c c' : Chain}

/-- A chain is traced from the beginning or not at all. -/
theorem Move.isSome_trace {call : Call} (hm : Move c call c') :
    c'.trace.isSome = c.trace.isSome := by
  cases hm <;> exact Option.isSome_map

/-- The groups of a chain of which another one is recorded as a change to its trace. -/
theorem inPlace_iff_of_map {f : Trace → Trace} (hmap : c'.trace = c.trace.map f) :
    c'.InPlace ↔
      ∃ t, c.trace = some t ∧ OpenInPlace (f t).parts c'.exposed c'.enclosing := by
  rw [InPlace, hmap]
  cases c.trace with
  | none => simp
  | some t => simp

theorem inPlace_begin {initial : Argument} {traced : Bool} (h : begin initial traced = .ok c) :
    c.InPlace ↔ traced = true := by
  obtain ⟨value, -, rfl⟩ := Fault.map_eq_ok.1 h
  cases traced with
  | false => simp [InPlace]
  | true =>
    refine iff_of_true ⟨.ofValue? value, rfl, ?_, trivial⟩ rfl
    cases value with
    | none => exact textInPlace_empty
    | some x => simpa [Trace.ofValue?, Trace.operand, Trace.empty, Argument.shown] using
        textInPlace_first x

/-- A scope that is opened has nothing but its first value yet; what is new is where it stands. -/
theorem inPlace_opened (op : Operator) (s : Option Int) (value : Option Decimal) :
    (c.opened op s value).InPlace ↔ c.InPlace ∧ op.joins = c.exposed.value.isSome := by
  have hopen : ∀ t, c.trace = some t →
      (OpenInPlace (openedTrace op value t).parts (c.opened op s value).exposed
        (c.opened op s value).enclosing ↔
      OpenInPlace t.parts c.exposed c.enclosing ∧ op.joins = c.exposed.value.isSome) := by
    intro t ht
    have hmark : (t.parts ++ [op.openText]).length = openedMark op c.trace := by
      rw [ht, openedMark, Trace.openGroup, Trace.mark_push, Trace.mark, List.length_append,
        List.length_singleton]
    have hparts : (openedTrace op value t).parts =
        (t.parts ++ [op.openText]) ++ (value.map Decimal.text).toList := by
      cases value <;> simp [openedTrace, Trace.openGroup, Trace.operand, Argument.shown]
    have hfirst : TextInPlace (String.join (value.map Decimal.text).toList) := by
      cases value with
      | none => exact textInPlace_empty
      | some x => exact join_one x.text ▸ textInPlace_first x
    rw [hparts]
    refine (openInPlace_append hmark).trans ((and_iff_right hfirst).trans ?_)
    exact aroundInPlace_concat.trans and_comm
  refine (inPlace_iff_of_map rfl).trans ?_
  rw [InPlace, exists_congr fun t ↦ and_congr_right (hopen t)]
  simp only [← and_assoc, exists_and_right]

namespace TraceTells

theorem inPlace_binary (h : c.TraceTells) {op : BinaryOp} {scale : Argument} {x v w : Decimal}
    (hvalue : c.exposed.value = some v) (happly : op.apply v x scale = .ok w) :
    ((c.withValue w).recording fun t ↦ t.binary op (.decimal x) scale).InPlace ↔ c.InPlace := by
  refine (inPlace_iff_of_map rfl).trans (exists_congr fun t ↦ and_congr_right fun ht ↦ ?_)
  obtain ⟨before, own, hparts, hlength, htells, -⟩ := (h t ht).exists_own
  rw [hvalue] at htells
  rw [Trace.binary, Trace.parts_push, hparts, List.append_assoc, openInPlace_append hlength]
  refine (openInPlace_append hlength).trans ?_
  rw [String.join_append, join_one, htells.textInPlace_step happly]
  rfl

theorem inPlace_unary (h : c.TraceTells) {op : UnaryOp} {scale : Argument} {v w : Decimal}
    (hvalue : c.exposed.value = some v) (happly : op.apply v scale = .ok w) :
    ((c.withValue w).recording fun t ↦ t.unary op scale c.exposed.start).InPlace ↔ c.InPlace := by
  refine (inPlace_iff_of_map rfl).trans (exists_congr fun t ↦ and_congr_right fun ht ↦ ?_)
  obtain ⟨before, own, hparts, hlength, htells, -⟩ := (h t ht).exists_own
  rw [hvalue] at htells
  rw [Trace.unary, hparts, ← hlength, List.take_left, List.drop_left, openInPlace_append hlength]
  refine (openInPlace_append hlength).trans ?_
  rw [join_one, htells.textInPlace_unary happly]
  rfl

theorem inPlace_closedInto (h : c.TraceTells) (hwell : c.WellNested) {w : Waiting}
    {rest : List Waiting} {v : Decimal} (henc : c.enclosing = w :: rest)
    (hfold : foldGroup w.pending w.scale w.scope.value c.exposed.value = .ok v) :
    (c.closedInto w rest v).InPlace ↔ c.InPlace := by
  refine (inPlace_iff_of_map rfl).trans (exists_congr fun t ↦ and_congr_right fun ht ↦ ?_)
  have htold := h t ht
  have hscale := hwell.needsScale_of_scale w (by rw [henc]; exact List.mem_cons_self)
  obtain ⟨e, hop, hs⟩ := Enclosure.exists_of_foldGroup hscale hfold
  rw [henc] at htold ⊢
  rw [Trace.closeGroup, Trace.parts_push]
  generalize t.parts = parts at htold ⊢
  cases htold with
  | @nested outer inner _ _ _ around start_eq tells =>
    obtain ⟨before, own, rfl, hlength, htells, -⟩ := around.exists_own
    have hgroup := htells.textInPlace_group e tells
    rw [hop, hs, ← join_group] at hgroup
    have hmark : (before ++ own ++ [w.pending.openText]).length = c.exposed.start := by
      rw [List.length_append, start_eq, List.length_singleton]
    have hopen : OpenInPlace (before ++ own ++ w.pending.openText :: inner) c.exposed (w :: rest) ↔
        TextInPlace (String.join inner) ∧ w.pending.joins = w.scope.value.isSome ∧
          TextInPlace (String.join own) ∧ AroundInPlace before rest := by
      rw [List.append_cons, openInPlace_append hmark, aroundInPlace_concat,
        openInPlace_append hlength]
    rw [hopen, List.append_assoc, List.append_assoc, List.cons_append]
    refine (openInPlace_append hlength).trans ?_
    rw [hgroup]
    constructor
    · rintro ⟨⟨hown, hjoins, hinner⟩, hbefore⟩
      exact ⟨hinner, hjoins, hown, hbefore⟩
    · rintro ⟨hinner, hjoins, hown, hbefore⟩
      exact ⟨⟨hown, hjoins, hinner⟩, hbefore⟩

/-- Every move leaves the groups where they are, and opens at most one more. -/
theorem inPlace_move (h : c.TraceTells) (hwell : c.WellNested) {call : Call}
    (hm : Move c call c') : c'.InPlace ↔ c.InPlace ∧ call.InPlace c.exposed.value := by
  cases hm with
  | binary _ value_eq apply_ok =>
    exact (h.inPlace_binary value_eq apply_ok).trans (and_iff_left trivial).symm
  | unary value_eq apply_ok =>
    exact (h.inPlace_unary value_eq apply_ok).trans (and_iff_left trivial).symm
  | openGroup => exact inPlace_opened _ _ _
  | close enclosing_eq fold_ok =>
    exact (h.inPlace_closedInto hwell enclosing_eq fold_ok).trans (and_iff_left trivial).symm

/-- Once all parentheses are closed the groups are those in the formula. -/
theorem inPlace_iff_formula (h : c.TraceTells) (henc : c.enclosing = []) {text : String}
    (hformula : c.formula? = some text) : c.InPlace ↔ TextInPlace text := by
  obtain ⟨t, ht, rfl⟩ := Option.map_eq_some_iff.1 hformula
  have htold := h t ht
  rw [InPlace, ht, henc]
  rw [henc] at htold
  simp only [Option.some.injEq, exists_eq_left', Trace.render]
  generalize t.parts = parts at htold ⊢
  cases htold with
  | root start_eq tells =>
    rw [OpenInPlace, start_eq, List.drop_zero]
    exact and_iff_left trivial

end TraceTells

end Chain

end Bracket

end ChainedDecimal
