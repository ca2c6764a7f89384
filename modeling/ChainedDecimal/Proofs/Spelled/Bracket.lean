import ChainedDecimal.Proofs.Spelled.Spells

/-!
# The text of a bracketed chain tells its values

The trace of a chain holds the texts of all open scopes, one behind the other: first that of the
root as far as it had come when the first parenthesis was opened, then the text that opened it and
what the scope in it has recorded so far, and so on inwards. At any time each of these texts tells
the value of its scope. A step changes the innermost of them only, and closing a parenthesis joins
the two innermost ones to the text of a scope with a group behind it.
-/

namespace ChainedDecimal

namespace Bracket

/-- The parts of a trace tell the values of the open scopes: of the exposed one and of those around
it. -/
inductive PartsTell : List String → Scope → List Waiting → Prop where
  /-- The root alone. -/
  | root {own : List String} {scope : Scope} (start_eq : scope.start = 0)
    (tells : Spells (String.join own) scope.value) : PartsTell own scope []
  /-- A scope in a parenthesis, behind the text that opened it. -/
  | nested {outer own : List String} {scope : Scope} {w : Waiting} {rest : List Waiting}
    (around : PartsTell outer w.scope rest) (start_eq : scope.start = outer.length + 1)
    (tells : Spells (String.join own) scope.value) :
    PartsTell (outer ++ w.pending.openText :: own) scope (w :: rest)

/-- The parts behind the mark of the exposed scope tell its value, and may be replaced together with
it. -/
theorem PartsTell.exists_own {parts : List String} {scope : Scope} {enclosing : List Waiting}
    (h : PartsTell parts scope enclosing) :
    ∃ before own, parts = before ++ own ∧ before.length = scope.start ∧
      Spells (String.join own) scope.value ∧
      ∀ own' v, Spells (String.join own') v →
        PartsTell (before ++ own') { scope with value := v } enclosing := by
  cases h with
  | root start_eq tells =>
    exact ⟨[], parts, rfl, start_eq.symm, tells, fun own' v hown ↦ .root start_eq hown⟩
  | @nested outer own _ w rest around start_eq tells =>
    refine ⟨outer ++ [w.pending.openText], own, by simp, by simp [start_eq], tells,
      fun own' v hown ↦ ?_⟩
    rw [List.append_assoc, List.singleton_append]
    exact .nested around start_eq hown

theorem join_one (x : String) : String.join [x] = x := by simp

/-- The parts of a group behind those of the text that it is a part of. -/
theorem join_group (own inner : List String) (op : Operator) (scale : Argument) :
    String.join (own ++ op.openText :: (inner ++ [op.closeText scale])) =
      String.join own ++ op.groupText (String.join inner) scale := by
  simp [String.join_append, String.join_cons, Operator.groupText, String.append_assoc]

namespace Chain

/-- What is recorded of a chain tells the values of its open scopes. -/
def TraceTells (c : Chain) : Prop :=
  ∀ t, c.trace = some t → PartsTell t.parts c.exposed c.enclosing

variable {c c' : Chain}

theorem traceTells_begin {initial : Argument} {traced : Bool} (h : begin initial traced = .ok c) :
    c.TraceTells := by
  obtain ⟨value, -, rfl⟩ := Fault.map_eq_ok.1 h
  intro t ht
  cases traced with
  | false => cases ht
  | true =>
    cases ht
    cases value with
    | none => exact .root rfl .empty
    | some x =>
      refine .root rfl ?_
      rw [Trace.ofValue?]
      simpa [Trace.operand, Trace.empty, Argument.shown] using Spells.first x

namespace TraceTells

/-- A step on the exposed scope changes its own text only. -/
theorem binary (h : c.TraceTells) {op : BinaryOp} {scale : Argument} {x v w : Decimal}
    (hvalue : c.exposed.value = some v) (happly : op.apply v x scale = .ok w) :
    ((c.withValue w).recording fun t ↦ t.binary op (.decimal x) scale).TraceTells := by
  intro t' ht'
  obtain ⟨t, ht, rfl⟩ := Option.map_eq_some_iff.1 ht'
  obtain ⟨before, own, hparts, -, htells, hreplace⟩ := (h t ht).exists_own
  rw [hvalue] at htells
  rw [Trace.binary, Trace.parts_push, hparts, List.append_assoc]
  refine hreplace _ _ ?_
  rw [String.join_append, join_one]
  exact htells.step happly

theorem unary (h : c.TraceTells) {op : UnaryOp} {scale : Argument} {v w : Decimal}
    (hvalue : c.exposed.value = some v) (happly : op.apply v scale = .ok w) :
    ((c.withValue w).recording fun t ↦ t.unary op scale c.exposed.start).TraceTells := by
  intro t' ht'
  obtain ⟨t, ht, rfl⟩ := Option.map_eq_some_iff.1 ht'
  obtain ⟨before, own, hparts, hlength, htells, hreplace⟩ := (h t ht).exists_own
  rw [hvalue] at htells
  rw [Trace.unary, hparts, ← hlength, List.take_left, List.drop_left]
  refine hreplace _ _ ?_
  rw [join_one]
  exact htells.unary happly

/-- A scope that is opened has no text yet but its first value. -/
theorem opened (h : c.TraceTells) (op : Operator) (s : Option Int) (value : Option Decimal) :
    (c.opened op s value).TraceTells := by
  intro t' ht'
  obtain ⟨t, ht, rfl⟩ := Option.map_eq_some_iff.1 ht'
  have hmark : openedMark op c.trace = t.parts.length + 1 := by
    rw [ht, openedMark, Trace.openGroup, Trace.mark_push, Trace.mark]
  have hnested : ∀ own, Spells (String.join own) value →
      PartsTell (t.parts ++ op.openText :: own) (c.opened op s value).exposed
        (c.opened op s value).enclosing :=
    fun own hown ↦ .nested (w := ⟨c.exposed, op, s⟩) (h t ht) hmark hown
  cases value with
  | none => exact hnested [] .empty
  | some x =>
    have hparts : (openedTrace op (some x) t).parts = t.parts ++ op.openText :: [x.text] := by
      simp [openedTrace, Trace.openGroup, Trace.operand, Argument.shown]
    rw [hparts]
    refine hnested [x.text] ?_
    rw [join_one]
    exact .first x

/-- When a parenthesis is closed its text becomes a group in the text around it. -/
theorem closedInto (h : c.TraceTells) (hwell : c.WellNested) {w : Waiting} {rest : List Waiting}
    {v : Decimal} (henc : c.enclosing = w :: rest)
    (hfold : foldGroup w.pending w.scale w.scope.value c.exposed.value = .ok v) :
    (c.closedInto w rest v).TraceTells := by
  intro t' ht'
  obtain ⟨t, ht, rfl⟩ := Option.map_eq_some_iff.1 ht'
  have htold := h t ht
  have hscale := hwell.needsScale_of_scale w (by rw [henc]; exact List.mem_cons_self)
  obtain ⟨e, hop, hs⟩ := Enclosure.exists_of_foldGroup hscale hfold
  rw [← hop, ← hs] at hfold
  rw [henc] at htold
  rw [Trace.closeGroup, Trace.parts_push]
  generalize t.parts = parts at htold ⊢
  cases htold with
  | @nested outer inner _ _ _ around start_eq tells =>
    obtain ⟨before, own, rfl, -, htells, hreplace⟩ := around.exists_own
    have hgroup := htells.group tells hfold
    rw [hop, hs] at hgroup
    rw [← join_group] at hgroup
    have hclosed := hreplace _ _ hgroup
    rw [List.append_assoc, List.append_assoc, List.cons_append]
    exact hclosed

/-- Every move keeps what is told. -/
theorem move (h : c.TraceTells) (hwell : c.WellNested) {call : Call} (hm : Move c call c') :
    c'.TraceTells := by
  cases hm with
  | binary _ value_eq apply_ok => exact h.binary value_eq apply_ok
  | unary value_eq apply_ok => exact h.unary value_eq apply_ok
  | openGroup => exact h.opened _ _ _
  | close enclosing_eq fold_ok => exact h.closedInto hwell enclosing_eq fold_ok

/-- Once all parentheses are closed the formula tells the value. -/
theorem spells (h : c.TraceTells) (henc : c.enclosing = []) {text : String}
    (hformula : c.formula? = some text) : Spells text c.exposed.value := by
  obtain ⟨t, ht, rfl⟩ := Option.map_eq_some_iff.1 hformula
  have htold := h t ht
  rw [henc] at htold
  rw [Trace.render]
  generalize t.parts = parts at htold ⊢
  cases htold with
  | root _ tells => exact tells

end TraceTells

end Chain

end Bracket

end ChainedDecimal
