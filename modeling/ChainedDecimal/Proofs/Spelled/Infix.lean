import ChainedDecimal.Proofs.Spelled.Spells

/-!
# Infix expressions

An infix expression begins with one operand, which is a literal or an expression in parentheses, and
goes on with binary steps, each with an operand of the same kinds. It is calculated from left to
right, without precedence.

The text of a scope is a phrase, and not every phrase is an infix expression: where a group stands
that is joined to nothing although there is something before it, or one that is joined although
there is nothing, the text is none. `InPlace` says that no group of a phrase stands so. This is the
only difference, and where an expression has the text of a scope it has the value of the scope.
-/

namespace ChainedDecimal

open ChainedDecimal.Bracket (foldGroup)

/-! ## Expressions -/

/-- How an expression in parentheses is an operand by itself. -/
inductive Wrap where
  | plain
  | negate
  | absolute
  | round (scale : Int)
deriving DecidableEq

namespace Wrap

/-- The text around the expression. -/
def text (own : String) : Wrap → String
  | .plain => "(" ++ own ++ ")"
  | .negate => "-(" ++ own ++ ")"
  | .absolute => "abs(" ++ own ++ ")"
  | .round n => "round(" ++ own ++ ", " ++ intText n ++ ")"

/-- What becomes of the value of the expression. -/
def apply (v : Decimal) : Wrap → Except Fault Decimal
  | .plain => .ok v
  | .negate => v.negate
  | .absolute => v.absolute
  | .round n => v.round n

/-- The operator of a group that stands for the operand. -/
def enclosure : Wrap → Enclosure
  | .plain => .plain
  | .negate => .negate
  | .absolute => .absolute
  | .round n => .round n

theorem text_eq_groupText (how : Wrap) (own : String) :
    how.text own = how.enclosure.operator.groupText own (.ofInt? how.enclosure.scale?) := by
  cases how <;> simp [text, enclosure, Enclosure.operator, Enclosure.scale?, Operator.groupText,
    Operator.openText, Operator.closeText, Argument.ofInt?, Argument.shown, String.append_assoc]

theorem foldGroup_eq_apply (how : Wrap) (outer : Option Decimal) (v : Decimal) :
    foldGroup how.enclosure.operator how.enclosure.scale? outer (some v) = how.apply v := by
  cases how <;> simp [foldGroup, enclosure, Enclosure.operator, Enclosure.scale?, apply,
    Operator.needsScale, UnaryOp.needsScale, UnaryOp.apply, Argument.ofInt?, Except.bind]

end Wrap

theorem GroupOp.foldGroup_eq_apply (op : GroupOp) (v u : Decimal) :
    foldGroup (.binary op.op) op.scale? (some v) (some u) = op.op.apply v u op.scale := by
  cases op <;> simp [foldGroup, GroupOp.op, scale?, scale, Operator.needsScale,
    BinaryOp.needsScale]

namespace Phrase

/-- The value of one plain step. -/
theorem value_step (op : GroupOp) (x v : Decimal) :
    (step op x .done).value (some v) = (op.op.apply v x op.scale).map some := by
  change op.op.apply v x op.scale >>= (fun w ↦ .ok (some w)) = _
  cases op.op.apply v x op.scale <;> rfl

/-- The value of one group. -/
theorem value_group (e : Enclosure) (first : Option Decimal) (p : Phrase) (v : Option Decimal) :
    (group e first p .done).value v =
      p.value first >>= fun u ↦ (foldGroup e.operator e.scale? v u).map some := by
  rw [value]
  cases p.value first with
  | error f => rfl
  | ok u =>
    change foldGroup e.operator e.scale? v u >>= (fun w ↦ .ok (some w)) =
      (foldGroup e.operator e.scale? v u).map some
    cases foldGroup e.operator e.scale? v u <;> rfl

end Phrase

/-- A calculation that is written from left to right. -/
inductive Infix where
  /-- A decimal as it is. -/
  | literal (x : Decimal)
  /-- An expression in parentheses. -/
  | wrapped (how : Wrap) (inner : Infix)
  /-- A binary step behind an expression. -/
  | step (left : Infix) (op : GroupOp) (operand : Decimal)
  /-- A binary step whose operand is an expression in parentheses. -/
  | join (left : Infix) (op : GroupOp) (right : Infix)

namespace Infix

/-- The text of an expression. -/
def text : Infix → String
  | .literal x => x.text
  | .wrapped how e => how.text e.text
  | .step left op x => left.text ++ op.op.stepText (.decimal x) op.scale
  | .join left op right => left.text ++ (Operator.binary op.op).groupText right.text op.scale

/-- The value of an expression, calculated from left to right. -/
def value : Infix → Except Fault Decimal
  | .literal x => .ok x
  | .wrapped how e => do
    let v ← e.value
    how.apply v
  | .step left op x => do
    let v ← left.value
    op.op.apply v x op.scale
  | .join left op right => do
    let v ← left.value
    let u ← right.value
    op.op.apply v u op.scale

/-! ## Expressions as phrases -/

/-- The literal that an expression begins with, unless it begins with a parenthesis. -/
def first : Infix → Option Decimal
  | .literal x => some x
  | .wrapped _ _ => none
  | .step left _ _ => left.first
  | .join left _ _ => left.first

/-- What stands behind the literal. -/
def phrase : Infix → Phrase
  | .literal _ => .done
  | .wrapped how e => .group how.enclosure e.first e.phrase .done
  | .step left op x => left.phrase.append (.step op x .done)
  | .join left op right => left.phrase.append (.group (.binary op) right.first right.phrase .done)

theorem toList_text (e : Infix) : e.text.toList = firstChars e.first ++ e.phrase.chars := by
  induction e with
  | literal x => simp [text, Decimal.text, first, firstChars, phrase, Phrase.chars]
  | wrapped how e ih =>
    rw [text, how.text_eq_groupText, Phrase.toList_groupText ih]
    rfl
  | step left op x ih =>
    rw [text, String.toList_append, ih, Phrase.toList_stepText, List.append_assoc, phrase,
      Phrase.chars_append, first]
  | join left op right ih ih_right =>
    have hgroup := Phrase.toList_groupText (e := .binary op) ih_right
    rw [text, String.toList_append, ih, List.append_assoc, phrase, Phrase.chars_append, first,
      ← hgroup]
    rfl

theorem value_phrase (e : Infix) : e.phrase.value e.first = e.value.map some := by
  induction e with
  | literal x => rfl
  | wrapped how e ih =>
    rw [phrase, first, Phrase.value_group, ih, value]
    cases e.value with
    | error f => rfl
    | ok v => exact congrArg (Except.map some) (how.foldGroup_eq_apply none v)
  | step left op x ih =>
    rw [phrase, Phrase.value_append, first, ih, value]
    cases left.value with
    | error f => rfl
    | ok v => exact Phrase.value_step op x v
  | join left op right ih ih_right =>
    rw [phrase, Phrase.value_append, first, ih, value]
    cases left.value with
    | error f => rfl
    | ok v =>
      change (Phrase.group (.binary op) right.first right.phrase .done).value (some v) = _
      rw [Phrase.value_group, ih_right]
      cases right.value with
      | error f => rfl
      | ok u => exact congrArg (Except.map some) (op.foldGroup_eq_apply v u)

end Infix

/-! ## Groups in place -/

/-- Whether a group under the operator is joined to what stands before it. -/
def Operator.joins : Operator → Bool
  | .binary _ => true
  | _ => false

namespace Phrase

/-- In a scope that has a value, or has none, every group of the phrase is joined to a value that is
there, or stands by itself where there is none. -/
def InPlace : Phrase → Bool → Prop
  | .done, _ => True
  | .step _ _ rest, valued => valued = true ∧ rest.InPlace true
  | .group e first inner rest, valued =>
    e.operator.joins = valued ∧ inner.InPlace first.isSome ∧ rest.InPlace true

/-- Whether there is a value behind the phrase. -/
def leavesValue : Phrase → Bool → Bool
  | .done, valued => valued
  | .step _ _ _, _ => true
  | .group _ _ _ _, _ => true

theorem isSome_of_value_eq {p : Phrase} {v u : Option Decimal} (h : p.value v = .ok u) :
    u.isSome = p.leavesValue v.isSome := by
  cases u with
  | none =>
    obtain ⟨rfl, rfl⟩ := eq_done_of_value h
    rfl
  | some w =>
    cases p with
    | done =>
      cases h
      rfl
    | step op x rest => rfl
    | group e first inner rest => rfl

theorem leavesValue_append (p q : Phrase) (valued : Bool) :
    (p.append q).leavesValue valued = q.leavesValue (p.leavesValue valued) := by
  cases p with
  | done => rfl
  | step op x rest => cases q <;> rfl
  | group e first inner rest => cases q <;> rfl

theorem leavesValue_true (p : Phrase) : p.leavesValue true = true := by cases p <;> rfl

theorem inPlace_append {p q : Phrase} {valued : Bool} :
    (p.append q).InPlace valued ↔ p.InPlace valued ∧ q.InPlace (p.leavesValue valued) := by
  induction p generalizing valued with
  | done => exact (and_iff_right trivial).symm
  | step op x rest ih =>
    rw [append, InPlace, InPlace, ih, rest.leavesValue_true, leavesValue, and_assoc]
  | group e first inner rest _ ih =>
    rw [append, InPlace, InPlace, ih, rest.leavesValue_true, leavesValue, and_assoc, and_assoc]

theorem append_done (p : Phrase) : p.append .done = p := by
  induction p with
  | done => rfl
  | step op x rest ih => rw [append, ih]
  | group e first inner rest _ ih => rw [append, ih]

theorem append_assoc (p q r : Phrase) : (p.append q).append r = p.append (q.append r) := by
  induction p with
  | done => rfl
  | step op x rest ih => rw [append, append, append, ih]
  | group e first inner rest _ ih => rw [append, append, append, ih]

end Phrase

theorem Wrap.joins_enclosure (how : Wrap) : how.enclosure.operator.joins = false := by
  cases how <;> rfl

/-- An enclosure either joins a group or is how an expression is an operand by itself. -/
theorem Enclosure.cases_joins (e : Enclosure) :
    (∃ op, e = .binary op) ∨ ∃ how : Wrap, e = how.enclosure := by
  match e with
  | .plain => exact Or.inr ⟨.plain, rfl⟩
  | .binary op => exact Or.inl ⟨op, rfl⟩
  | .negate => exact Or.inr ⟨.negate, rfl⟩
  | .absolute => exact Or.inr ⟨.absolute, rfl⟩
  | .round n => exact Or.inr ⟨.round n, rfl⟩

namespace Infix

theorem leavesValue_phrase (e : Infix) : e.phrase.leavesValue e.first.isSome = true := by
  cases e with
  | literal x => rfl
  | wrapped how e => rfl
  | step left op x => exact Phrase.leavesValue_append _ _ _
  | join left op right => exact Phrase.leavesValue_append _ _ _

/-- In an expression all groups are in place. -/
theorem inPlace_phrase (e : Infix) : e.phrase.InPlace e.first.isSome := by
  induction e with
  | literal x => trivial
  | wrapped how e ih => exact ⟨how.joins_enclosure, ih, trivial⟩
  | step left op x ih =>
    exact Phrase.inPlace_append.2 ⟨ih, left.leavesValue_phrase.symm ▸ ⟨rfl, trivial⟩⟩
  | join left op right ih ih_right =>
    exact Phrase.inPlace_append.2 ⟨ih, left.leavesValue_phrase.symm ▸ ⟨rfl, ih_right, trivial⟩⟩

theorem exists_of_foldGroup {op : Operator} {scale : Option Int} {outer inner : Option Decimal}
    {w : Decimal} (h : foldGroup op scale outer inner = .ok w) : ∃ u, inner = some u := by
  obtain ⟨-, h⟩ := Fault.check_eq_ok.1 h
  cases inner with
  | none => cases h
  | some u => exact ⟨u, rfl⟩

/-- Behind an expression that is there, or behind nothing, a phrase whose groups are in place goes
on as an expression. -/
theorem exists_of_inPlace {p : Phrase} {b : Option Infix} {v : Option Decimal} {w : Decimal}
    (hplace : p.InPlace b.isSome) (hbefore : b.isSome = v.isSome)
    (hvalue : p.value v = .ok (some w)) :
    ∃ e : Infix, e.first = b.bind first ∧
      e.phrase = (b.elim .done phrase).append p := by
  induction p generalizing b v w with
  | done =>
    cases hvalue
    obtain ⟨e, rfl⟩ := Option.isSome_iff_exists.1 hbefore
    exact ⟨e, rfl, (Phrase.append_done _).symm⟩
  | step op x rest ih =>
    obtain ⟨hthere, hrest⟩ := hplace
    obtain ⟨e, rfl⟩ := Option.isSome_iff_exists.1 hthere
    obtain ⟨_, -, hstep⟩ := Fault.bind_eq_ok.1 hvalue
    obtain ⟨u, -, hbehind⟩ := Fault.bind_eq_ok.1 hstep
    obtain ⟨e', hfirst, hphrase⟩ := ih (b := some (.step e op x)) hrest rfl hbehind
    exact ⟨e', hfirst, by rw [hphrase, Option.elim, phrase, Phrase.append_assoc]; rfl⟩
  | group how first inner rest ih_inner ih =>
    obtain ⟨hjoins, hinner, hrest⟩ := hplace
    obtain ⟨u, hu, hgroup⟩ := Fault.bind_eq_ok.1 hvalue
    obtain ⟨t, hfold, hbehind⟩ := Fault.bind_eq_ok.1 hgroup
    obtain ⟨x, rfl⟩ := exists_of_foldGroup hfold
    obtain ⟨e, hfirst, hphrase⟩ := ih_inner (b := first.map .literal)
      (by rwa [Option.isSome_map]) Option.isSome_map hu
    have he : e.first = first ∧ e.phrase = inner := by
      cases first <;> exact ⟨hfirst, hphrase⟩
    obtain ⟨rfl, rfl⟩ := he
    rcases how.cases_joins with ⟨op, rfl⟩ | ⟨wrap, rfl⟩
    · -- A group that is joined is the operand of a step.
      obtain ⟨l, rfl⟩ := Option.isSome_iff_exists.1 hjoins.symm
      obtain ⟨e', hfirst', hphrase'⟩ := ih (b := some (.join l op e)) hrest rfl hbehind
      exact ⟨e', hfirst', by rw [hphrase', Option.elim, phrase, Phrase.append_assoc]; rfl⟩
    · -- Any other group is what the expression begins with.
      rw [wrap.joins_enclosure] at hjoins
      obtain rfl := Option.not_isSome_iff_eq_none.1 (Bool.eq_false_iff.1 hjoins.symm)
      exact ih (b := some (.wrapped wrap e)) hrest rfl hbehind

/-- A phrase whose groups are in place is that of an expression. -/
theorem exists_of_first {p : Phrase} {x : Option Decimal} {w : Decimal}
    (hplace : p.InPlace x.isSome) (hvalue : p.value x = .ok (some w)) :
    ∃ e : Infix, e.first = x ∧ e.phrase = p := by
  obtain ⟨e, hfirst, hphrase⟩ := exists_of_inPlace (b := x.map .literal)
    (by rwa [Option.isSome_map]) Option.isSome_map hvalue
  cases x <;> exact ⟨e, hfirst, hphrase⟩

end Infix

end ChainedDecimal
