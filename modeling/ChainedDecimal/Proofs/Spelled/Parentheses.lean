import ChainedDecimal.Proofs.Spelled.Bracket

/-!
# Parentheses in the text of a chain

In the text of a scope every parenthesis is closed by the group that it belongs to, and behind the
place where it was opened. The text of a chain with open groups is made of such texts and of what
opened the groups, which stands between them. So no parenthesis is closed in it that was not opened,
and one is left open for each enclosing scope.

Parentheses are counted in phrases. There the decimals and the scales, which could be anywhere in a
text, are known to be decimals.
-/

namespace ChainedDecimal

open ChainedDecimal.Bracket

/-! ## Counting -/

/-- Up to no point of a text have more parentheses been closed than opened, and at its end so many
more have been opened. -/
structure LeavesOpen (n : Nat) (cs : List Char) : Prop where
  /-- What is closed was opened before. -/
  closing_le : ∀ p, p <+: cs → p.count ')' ≤ p.count '('
  /-- What is not closed. -/
  opening_eq : cs.count '(' = cs.count ')' + n

/-- There is no parenthesis in the text. -/
def Flat (cs : List Char) : Prop := '(' ∉ cs ∧ ')' ∉ cs

instance (cs : List Char) : Decidable (Flat cs) := inferInstanceAs (Decidable (_ ∧ _))

variable {m n : Nat} {as bs cs : List Char}

theorem flat_append : Flat (as ++ bs) ↔ Flat as ∧ Flat bs := by
  simp only [Flat, List.mem_append, not_or]
  exact and_and_and_comm

namespace LeavesOpen

theorem of_flat (h : Flat cs) : LeavesOpen 0 cs := by
  have hopening : cs.count '(' = 0 := List.count_eq_zero.2 h.1
  have hclosing : cs.count ')' = 0 := List.count_eq_zero.2 h.2
  refine ⟨fun p hp ↦ ?_, by omega⟩
  have hle : p.count ')' ≤ cs.count ')' := hp.sublist.count_le _
  omega

/-- One text behind another leaves open what they both do. -/
theorem append (ha : LeavesOpen m as) (hb : LeavesOpen n bs) : LeavesOpen (m + n) (as ++ bs) := by
  have hopened := ha.opening_eq
  refine ⟨fun p hp ↦ ?_, ?_⟩
  · rcases List.prefix_or_prefix_of_prefix hp (List.prefix_append as bs) with hpa | ⟨q, rfl⟩
    · exact ha.closing_le p hpa
    · have hq := hb.closing_le q ((List.prefix_append_right_inj as).1 hp)
      rw [List.count_append, List.count_append]
      omega
  · have hopened' := hb.opening_eq
    rw [List.count_append, List.count_append]
    omega

/-- A parenthesis that is left open may be closed. -/
theorem close (h : LeavesOpen (n + 1) cs) : LeavesOpen n (cs ++ [')']) := by
  have hopened := h.opening_eq
  have hopening : (cs ++ [')']).count '(' = cs.count '(' := by simp
  have hclosing : (cs ++ [')']).count ')' = cs.count ')' + 1 := by simp
  refine ⟨fun p hp ↦ ?_, by omega⟩
  rcases List.prefix_concat_iff.1 hp with rfl | hp
  · omega
  · exact h.closing_le p hp

end LeavesOpen

/-! ## Decimals and scales -/

theorem Decimal.mem_chars {d : Decimal} {c : Char} (h : c ∈ d.chars) :
    c.isDigit = true ∨ c ∈ ['-', '+', '.', 'E'] := by
  have hfraction : ∀ ds : List Char, c ∈ fractionChars ds → c ∈ ds ∨ c = '.' := by
    intro ds hc
    cases ds with
    | nil => cases hc
    | cons d ds => exact (List.mem_cons.1 hc).symm
  have hexponent : ∀ e : Option Int, c ∈ exponentPart e →
      c.isDigit = true ∨ c ∈ ['-', '+', '.', 'E'] := by
    intro e hc
    cases e with
    | none => cases hc
    | some e =>
      simp only [exponentPart, exponentChars, List.mem_cons] at hc
      rcases hc with rfl | rfl | hc
      · simp
      · split <;> simp
      · exact Or.inl (isDigit_of_mem_digitChars hc)
  have hunsigned : c ∈ d.unsignedChars → c.isDigit = true ∨ c ∈ ['-', '+', '.', 'E'] := by
    intro hc
    obtain ⟨whole, fraction, e, hparts⟩ := d.exists_parts
    rw [hparts.chars_eq, List.mem_append, List.mem_append] at hc
    rcases hc with hc | hc | hc
    · exact Or.inl (hparts.isDigit c (List.mem_append_left _ hc))
    · rcases hfraction fraction hc with hc | rfl
      · exact Or.inl (hparts.isDigit c (List.mem_append_right _ hc))
      · simp
    · exact hexponent e hc
  rw [chars] at h
  split at h
  · rcases List.mem_cons.1 h with rfl | hc
    · simp
    · exact hunsigned hc
  · exact hunsigned h

theorem Decimal.flat_chars (d : Decimal) : Flat d.chars := by
  have hno : ∀ c : Char, c.isDigit = false → c ∉ ['-', '+', '.', 'E'] → c ∉ d.chars := by
    intro c hdigit hmark hc
    rcases mem_chars hc with h | h
    · exact absurd (h.symm.trans hdigit) (by decide)
    · exact hmark h
  exact ⟨hno '(' (by decide) (by decide), hno ')' (by decide) (by decide)⟩

theorem flat_firstChars (first : Option Decimal) : Flat (firstChars first) := by
  cases first with
  | none => decide
  | some x => exact x.flat_chars

theorem flat_noteChars (scale : Option Int) : Flat (noteChars scale) := by
  cases scale with
  | none => decide
  | some n =>
    have hbefore : Flat ['[', 's', 'c', 'a', 'l', 'e', '='] := by decide
    exact flat_append.2 ⟨hbefore, flat_append.2 ⟨(Decimal.ofInt n).flat_chars, by decide⟩⟩

/-! ## Groups -/

theorem Operator.leavesOpen_openChars (op : Operator) : LeavesOpen 1 op.openChars := by
  obtain ⟨before, hbefore, hflat⟩ : ∃ before, op.openChars = before ++ ['('] ∧ Flat before := by
    match op with
    | .plain => exact ⟨[], rfl, by decide⟩
    | .binary op => exact ⟨[' ', op.sign, ' '], rfl, by cases op <;> decide⟩
    | .unary .negate => exact ⟨['-'], rfl, by decide⟩
    | .unary .absolute => exact ⟨['a', 'b', 's'], rfl, by decide⟩
    | .unary .round => exact ⟨['r', 'o', 'u', 'n', 'd'], rfl, by decide⟩
  have hparen : LeavesOpen 1 ['('] := by
    refine ⟨fun p hp ↦ ?_, by decide⟩
    have hcases : p = [] ++ ['('] ∨ p <+: [] := List.prefix_concat_iff.1 hp
    rcases hcases with rfl | hnil
    · decide
    · rw [List.prefix_nil.1 hnil]
      exact Nat.le_refl 0
  rw [hbefore]
  exact (LeavesOpen.of_flat hflat).append hparen

/-- One parenthesis is closed behind a group. -/
theorem Enclosure.exists_closeChars (e : Enclosure) :
    ∃ before behind, e.closeChars = before ++ ')' :: behind ∧ Flat before ∧ Flat behind := by
  cases e with
  | binary op => exact ⟨[], noteChars op.scale?, rfl, by decide, flat_noteChars _⟩
  | round n =>
    refine ⟨',' :: ' ' :: (Decimal.ofInt n).chars, [], rfl, ?_, by decide⟩
    have hbefore : Flat [',', ' '] := by decide
    exact flat_append.2 ⟨hbefore, (Decimal.ofInt n).flat_chars⟩
  | _ => exact ⟨[], [], rfl, by decide, by decide⟩

/-- What stands between the opening and the closing text of a group stands in parentheses. -/
theorem LeavesOpen.group (h : LeavesOpen 0 cs) (e : Enclosure) :
    LeavesOpen 0 (e.operator.openChars ++ (cs ++ e.closeChars)) := by
  obtain ⟨before, behind, hclose, hbefore, hbehind⟩ := e.exists_closeChars
  have hinner := (e.operator.leavesOpen_openChars.append h).append (.of_flat hbefore)
  have hclosed := hinner.close.append (.of_flat hbehind)
  rw [hclose]
  simpa [List.append_assoc] using hclosed

/-- In a phrase every parenthesis is closed. -/
theorem Phrase.leavesOpen_chars (p : Phrase) : LeavesOpen 0 p.chars := by
  induction p with
  | done => exact .of_flat (by decide)
  | step op x rest ih =>
    have hsign : Flat [' ', op.op.sign, ' '] := by cases op.op <;> decide
    have hstep := flat_append.2 ⟨hsign, flat_append.2 ⟨x.flat_chars, flat_noteChars op.scale?⟩⟩
    have hboth := (LeavesOpen.of_flat hstep).append ih
    simpa [chars, List.append_assoc] using hboth
  | group e first inner rest ih_inner ih =>
    have hinner := (LeavesOpen.of_flat (flat_firstChars first)).append ih_inner
    have hboth := (hinner.group e).append ih
    simpa [chars, List.append_assoc] using hboth

/-! ## Texts -/

/-- In the text of a scope every parenthesis is closed. -/
theorem Spells.leavesOpen {text : String} {v : Option Decimal} (h : Spells text v) :
    LeavesOpen 0 text.toList := by
  obtain ⟨first, p, htext, -⟩ := h
  rw [htext]
  exact (LeavesOpen.of_flat (flat_firstChars first)).append p.leavesOpen_chars

namespace Bracket

/-- In the text of a chain one parenthesis is open for each enclosing scope. -/
theorem PartsTell.leavesOpen {parts : List String} {scope : Scope} {enclosing : List Waiting}
    (h : PartsTell parts scope enclosing) :
    LeavesOpen enclosing.length (String.join parts).toList := by
  induction h with
  | root _ tells => exact tells.leavesOpen
  | @nested outer own _ w rest _ _ tells ih =>
    have hopen := (ih.append w.pending.leavesOpen_openChars).append tells.leavesOpen
    rw [String.join_append, String.join_cons, String.toList_append, String.toList_append,
      Operator.toList_openText, ← List.append_assoc]
    exact hopen

/-- **Parentheses are balanced in the text of a chain** up to those of the groups that are open. -/
theorem Chain.TraceTells.leavesOpen {c : Chain} (h : c.TraceTells) {t : Trace}
    (ht : c.trace = some t) : LeavesOpen c.enclosing.length t.render.toList :=
  (h t ht).leavesOpen

end Bracket

end ChainedDecimal
