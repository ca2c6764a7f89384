import ChainedDecimal.Proofs.Decimal.Spelling
import ChainedDecimal.Proofs.Spelled.Phrase

/-!
# Reading a phrase

Every part of a phrase is known by its first characters. A decimal begins with a digit, or with a
minus and a digit behind it, and a group under negation with a minus and a parenthesis; a binary
operator stands between blanks; and what closes a group begins with a parenthesis or a comma, which
nothing else begins with. So a text is the text of at most one phrase.

As phrases are nested in each other, all of this is said of a text at the beginning of another one:
what stands behind a part is told together with the part.
-/

namespace ChainedDecimal

open Decimal (EndsBefore)

/-! ## What may stand behind a part -/

/-- Nothing, or what closes a group. -/
def Closes (r : List Char) : Prop := ∀ c ∈ r.head?, c = ')' ∨ c = ','

/-- What may stand behind a decimal: nothing, one of these characters, or a minus in front of a
parenthesis. -/
inductive Follows : List Char → Prop where
  | nil : Follows []
  | character {c : Char} {l : List Char} (mem : c ∈ [')', ',', ' ', '(', 'a', 'r']) :
    Follows (c :: l)
  | minus (l : List Char) : Follows ('-' :: '(' :: l)

theorem Closes.follows {r : List Char} (h : Closes r) : Follows r := by
  match r with
  | [] => exact .nil
  | c :: l =>
    refine .character ?_
    rcases h c rfl with rfl | rfl <;> simp

theorem Follows.endsBefore {r : List Char} (h : Follows r) : EndsBefore r := by
  intro x hx
  cases h with
  | nil => cases hx
  | character mem =>
    cases hx
    simp only [List.mem_cons, List.not_mem_nil, or_false] at mem
    rcases mem with rfl | rfl | rfl | rfl | rfl | rfl <;> decide
  | minus l =>
    cases hx
    decide

/-- What may stand behind a decimal does not begin with one. -/
theorem Follows.ne_chars_append {r : List Char} (h : Follows r) (x : Decimal) (s : List Char) :
    r ≠ x.chars ++ s := by
  obtain ⟨c, cs, hc, hx | hx⟩ := x.exists_chars_eq
  · rintro rfl
    rw [hx, List.cons_append] at h
    generalize cs ++ s = l at h
    cases h with
    | character mem =>
      simp only [List.mem_cons, List.not_mem_nil, or_false] at mem
      rcases mem with rfl | rfl | rfl | rfl | rfl | rfl <;> cases hc
    | minus => cases hc
  · rintro rfl
    rw [hx, List.cons_append, List.cons_append] at h
    generalize cs ++ s = l at h
    cases h with
    | character mem => simp at mem
    | minus => cases hc

/-- What opens a group may stand behind a decimal. -/
theorem Operator.follows_openChars_append (op : Operator) (r : List Char) :
    Follows (op.openChars ++ r) := by
  match op with
  | .unary .negate => exact .minus r
  | .plain | .binary _ | .unary .absolute | .unary .round => exact .character (by simp)

theorem Enclosure.closes_closeChars_append (e : Enclosure) (r : List Char) :
    Closes (e.closeChars ++ r) := by
  intro c hc
  cases e <;> cases hc <;> simp

/-- What stands behind a decimal in a scope. -/
theorem Phrase.follows_chars_append (p : Phrase) {r : List Char} (h : Closes r) :
    Follows (p.chars ++ r) := by
  cases p with
  | done => exact h.follows
  | step op x rest => exact .character (by simp)
  | group e first inner rest =>
    rw [chars, List.append_assoc]
    exact e.operator.follows_openChars_append _

/-! ## Telling the parts apart -/

theorem BinaryOp.sign_injective : Function.Injective BinaryOp.sign := by
  intro a b h
  cases a <;> cases b <;> first | rfl | exact absurd h (by decide)

namespace Operator

theorem mem_all (op : Operator) : op ∈ all := by
  match op with
  | .plain => decide
  | .binary op => cases op <;> decide
  | .unary op => cases op <;> decide

/-- What opens a group is not the beginning of what opens another. -/
theorem eq_of_prefix_openChars :
    ∀ a ∈ all, ∀ b ∈ all, a.openChars <+: b.openChars → a = b := by decide

/-- What opens a group tells its operator. -/
theorem openChars_append_inj {a b : Operator} {r s : List Char}
    (h : a.openChars ++ r = b.openChars ++ s) : a = b ∧ r = s := by
  have heq : a = b := by
    have hb : b.openChars <+: a.openChars ++ r := h ▸ List.prefix_append _ _
    rcases List.prefix_or_prefix_of_prefix (List.prefix_append _ _) hb with hab | hba
    · exact eq_of_prefix_openChars a a.mem_all b b.mem_all hab
    · exact (eq_of_prefix_openChars b b.mem_all a a.mem_all hba).symm
  subst heq
  exact ⟨rfl, List.append_cancel_left h⟩

/-- What opens a group closes none. -/
theorem not_closes_openChars_append (op : Operator) (r : List Char) :
    ¬Closes (op.openChars ++ r) := by
  match op with
  | .plain | .binary _ | .unary .negate | .unary .absolute | .unary .round =>
    simp [Closes, openChars]

/-- Behind the sign of an operator stands a decimal in a plain step, and a parenthesis in what opens
a group. -/
theorem step_ne_openChars_append (sign : Char) (x : Decimal) (op : Operator) (r s : List Char) :
    ' ' :: sign :: ' ' :: (x.chars ++ r) ≠ op.openChars ++ s := by
  match op with
  | .plain | .unary .negate | .unary .absolute | .unary .round => simp [openChars]
  | .binary op =>
    intro h
    simp only [openChars, List.cons_append, List.nil_append, List.cons.injEq, true_and] at h
    exact Follows.ne_chars_append (.character (by simp)) x r h.2.symm

end Operator

/-- A scale ends before a bracket. -/
theorem intChars_append_inj {m n : Int} {c : Char} {r s : List Char}
    (hc : c.isDigit = false ∧ c ≠ '.' ∧ c ≠ 'E')
    (h : (Decimal.ofInt m).chars ++ c :: r = (Decimal.ofInt n).chars ++ c :: s) :
    m = n ∧ r = s := by
  have hends : ∀ l : List Char, EndsBefore (c :: l) := by
    intro l x hx
    cases hx
    exact hc
  obtain ⟨hint, hrest⟩ := Decimal.chars_append_inj (hends r) (hends s) h
  exact ⟨Decimal.ofInt_injective hint, List.tail_eq_of_cons_eq hrest⟩

/-- The operand of a plain step ends before the note of its scale, or where the step ends. -/
theorem endsBefore_noteChars_append (scale : Option Int) {r : List Char} (h : Follows r) :
    EndsBefore (noteChars scale ++ r) := by
  cases scale with
  | none => exact h.endsBefore
  | some n =>
    intro c hc
    cases hc
    decide

theorem GroupOp.noteChars_append_inj {a b : GroupOp} {r s : List Char} (hop : a.op = b.op)
    (h : noteChars a.scale? ++ r = noteChars b.scale? ++ s) : a = b ∧ r = s := by
  match a, b, hop with
  | .add, .add, _ => exact ⟨rfl, h⟩
  | .subtract, .subtract, _ => exact ⟨rfl, h⟩
  | .multiply, .multiply, _ => exact ⟨rfl, h⟩
  | .divide m, .divide n, _ =>
    simp only [scale?, noteChars, List.cons_append, List.append_assoc, List.cons.injEq,
      true_and, List.nil_append] at h
    obtain ⟨rfl, hrest⟩ := intChars_append_inj (by decide) h
    exact ⟨rfl, hrest⟩

namespace Enclosure

variable {e f : Enclosure} {r s : List Char}

/-- What closes a group tells the scale of its operator. -/
theorem closeChars_append_inj (hop : e.operator = f.operator)
    (h : e.closeChars ++ r = f.closeChars ++ s) : e = f ∧ r = s := by
  match e, f with
  | .plain, .plain | .negate, .negate | .absolute, .absolute =>
    exact ⟨rfl, List.append_cancel_left h⟩
  | .binary a, .binary b =>
    obtain ⟨rfl, hrest⟩ := GroupOp.noteChars_append_inj (Operator.binary.inj hop)
      (List.tail_eq_of_cons_eq h)
    exact ⟨rfl, hrest⟩
  | .round m, .round n =>
    simp only [closeChars, List.cons_append, List.append_assoc, List.cons.injEq, true_and,
      List.nil_append] at h
    obtain ⟨rfl, hrest⟩ := intChars_append_inj (by decide) h
    exact ⟨rfl, hrest⟩

end Enclosure

/-- A decimal that a scope begins with can be told, and so can that there is none. -/
theorem firstChars_append_inj {x y : Option Decimal} {r s : List Char} (hr : Follows r)
    (hs : Follows s) (h : firstChars x ++ r = firstChars y ++ s) : x = y ∧ r = s := by
  match x, y with
  | none, none => exact ⟨rfl, h⟩
  | none, some y => exact absurd h (hr.ne_chars_append y s)
  | some x, none => exact absurd h.symm (hs.ne_chars_append x r)
  | some x, some y =>
    obtain ⟨rfl, hrest⟩ := Decimal.chars_append_inj hr.endsBefore hs.endsBefore h
    exact ⟨rfl, hrest⟩

namespace Phrase

/-- Only an empty phrase begins as what closes a group. -/
theorem eq_done_of_closes {p : Phrase} {r : List Char} (h : Closes (p.chars ++ r)) : p = .done := by
  cases p with
  | done => rfl
  | step op x rest => simp [chars, Closes] at h
  | group e first inner rest =>
    rw [chars, List.append_assoc] at h
    exact absurd h (e.operator.not_closes_openChars_append _)

/-- **Unique reading.** A phrase is found at the beginning of a text, as far as what closes the
group it stands in. -/
theorem chars_append_inj {p q : Phrase} {r s : List Char} (hr : Closes r) (hs : Closes s)
    (h : p.chars ++ r = q.chars ++ s) : p = q ∧ r = s := by
  -- By induction on one of the phrases, for any text that closes behind it: the inner phrase of a
  -- group stands in front of what closes the group, and the rest in front of what was there before.
  induction p generalizing q r s with
  | done =>
    have hq : Closes (q.chars ++ s) := by
      rw [← h]
      exact hr
    obtain rfl := eq_done_of_closes hq
    exact ⟨rfl, h⟩
  | step op x rest ih =>
    cases q with
    | done =>
      have hp : Closes ((step op x rest).chars ++ r) := by
        rw [h]
        exact hs
      cases eq_done_of_closes hp
    | step op' x' rest' =>
      simp only [chars, List.cons_append, List.append_assoc, List.cons.injEq, true_and] at h
      obtain ⟨hsign, hoperand⟩ := h
      obtain ⟨rfl, hnote⟩ := Decimal.chars_append_inj
        (endsBefore_noteChars_append _ (rest.follows_chars_append hr))
        (endsBefore_noteChars_append _ (rest'.follows_chars_append hs)) hoperand
      obtain ⟨rfl, hrest⟩ := GroupOp.noteChars_append_inj (BinaryOp.sign_injective hsign) hnote
      obtain ⟨rfl, hbehind⟩ := ih hr hs hrest
      exact ⟨rfl, hbehind⟩
    | group e first inner rest' =>
      simp only [chars, List.cons_append, List.append_assoc] at h
      exact absurd h (Operator.step_ne_openChars_append _ _ _ _ _)
  | group e first inner rest ih_inner ih_rest =>
    cases q with
    | done =>
      have hp : Closes ((group e first inner rest).chars ++ r) := by
        rw [h]
        exact hs
      cases eq_done_of_closes hp
    | step op x rest' =>
      simp only [chars, List.cons_append, List.append_assoc] at h
      exact absurd h.symm (Operator.step_ne_openChars_append _ _ _ _ _)
    | group e' first' inner' rest' =>
      simp only [chars, List.append_assoc] at h
      have hclose := e.closes_closeChars_append (rest.chars ++ r)
      have hclose' := e'.closes_closeChars_append (rest'.chars ++ s)
      -- From left to right: the operator, the first decimal, the inner phrase, the scale, the rest.
      obtain ⟨hop, hfirst⟩ := Operator.openChars_append_inj h
      obtain ⟨rfl, hinner⟩ := firstChars_append_inj (inner.follows_chars_append hclose)
        (inner'.follows_chars_append hclose') hfirst
      obtain ⟨rfl, hscale⟩ := ih_inner hclose hclose' hinner
      obtain ⟨rfl, hrest⟩ := Enclosure.closeChars_append_inj hop hscale
      obtain ⟨rfl, hbehind⟩ := ih_rest hr hs hrest
      exact ⟨rfl, hbehind⟩

end Phrase

end ChainedDecimal
