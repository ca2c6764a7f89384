import ChainedDecimal.Proofs.Bracket.Move

/-!
# The scopes of a bracketed chain

The open scopes of a chain are a list, innermost first, and the closed ones another. A call opens a
scope in front of the open ones, moves the first of them behind the closed ones, or changes the
value of the first; no call touches any other scope.

## The invariant

`WellNested` is what makes a number a name for a scope: the numbers of the scopes are exactly those
below the number of scopes there have been, each used once. The two other fields say that the root,
number zero, is always the outermost open scope, and that a scale waits only for an operator that
takes one. Nothing needs to be said about links: a scope and the one nested in it are neighbours in
the list.
-/

namespace ChainedDecimal

/-- Only divisions and roundings take a scale. -/
theorem Operator.needsScale_iff {op : Operator} :
    op.needsScale = true ↔ op = .binary .divide ∨ op = .unary .round := by
  cases op with
  | plain => decide
  | binary op => cases op <;> decide
  | unary op => cases op <;> decide

namespace Bracket

namespace Chain

/-- The open scopes, innermost first. -/
def openScopes (c : Chain) : List Scope := c.exposed :: c.enclosing.map Waiting.scope

/-- The numbers of the open scopes, innermost first. -/
def openIds (c : Chain) : List Nat := c.openScopes.map Scope.id

/-- The numbers of the closed scopes. -/
def closedIds (c : Chain) : List Nat := c.closed.map Scope.id

/-- The numbers of all scopes. -/
def ids (c : Chain) : List Nat := c.openIds ++ c.closedIds

/-- The numbers of the scopes tell them apart, the root is open, and a scale waits only for an
operator that takes one. -/
structure WellNested (c : Chain) : Prop where
  /-- No two scopes have the same number. -/
  nodup_ids : c.ids.Nodup
  /-- The numbers are those below the number of scopes. -/
  mem_ids_iff : ∀ id, id ∈ c.ids ↔ id < c.size
  /-- The outermost open scope is the root. -/
  root_open : c.openIds.getLast? = some 0
  /-- A scale waits only for an operator that takes one. -/
  needsScale_of_scale : ∀ w ∈ c.enclosing, w.scale.isSome → w.pending.needsScale = true

variable {c c' : Chain}

/-! ## What the moves do to the scopes -/

@[simp] theorem openIds_opened (c : Chain) (op : Operator) (s : Option Int) (v : Option Decimal) :
    (c.opened op s v).openIds = c.size :: c.openIds := rfl

theorem openIds_closedInto (c : Chain) (w : Waiting) (rest : List Waiting) (v : Decimal) :
    (c.closedInto w rest v).openIds = w.scope.id :: rest.map (·.scope.id) := by
  simp [openIds, openScopes, closedInto]

theorem openIds_of_enclosing {w : Waiting} {rest : List Waiting} (h : c.enclosing = w :: rest) :
    c.openIds = c.exposed.id :: w.scope.id :: rest.map (·.scope.id) := by
  simp [openIds, openScopes, h]

theorem ids_eq_cons (c : Chain) :
    c.ids = c.exposed.id :: (c.enclosing.map (·.scope.id) ++ c.closedIds) := by
  simp [ids, openIds, openScopes]

theorem length_openIds (c : Chain) : c.openIds.length = c.enclosing.length + 1 := by
  simp [openIds, openScopes]

/-- Closing a scope keeps the numbers there are. -/
theorem ids_closedInto_perm {w : Waiting} {rest : List Waiting} (h : c.enclosing = w :: rest)
    (v : Decimal) : (c.closedInto w rest v).ids.Perm c.ids := by
  have hclosed : (c.closedInto w rest v).closedIds = c.closedIds ++ [c.exposed.id] := by
    simp [closedIds, closedInto]
  rw [ids, ids, openIds_closedInto, hclosed, openIds_of_enclosing h, ← List.append_assoc]
  exact List.perm_append_singleton _ _

theorem size_closedInto {w : Waiting} {rest : List Waiting} (h : c.enclosing = w :: rest)
    (v : Decimal) : (c.closedInto w rest v).size = c.size := by
  simp only [size, closedInto, h, List.length_cons, List.length_append, List.length_nil]
  omega

theorem size_opened (c : Chain) (op : Operator) (s : Option Int) (v : Option Decimal) :
    (c.opened op s v).size = c.size + 1 := by
  simp only [size, opened, List.length_cons]
  omega

/-! ## The invariant holds of every chain -/

theorem exposed_id_begin {initial : Argument} {traced : Bool} (h : begin initial traced = .ok c) :
    c.exposed.id = 0 ∧ c.size = 1 := by
  obtain ⟨v, -, rfl⟩ := Fault.map_eq_ok.1 h
  exact ⟨rfl, rfl⟩

theorem wellNested_begin {initial : Argument} {traced : Bool} (h : begin initial traced = .ok c) :
    c.WellNested := by
  obtain ⟨v, -, rfl⟩ := Fault.map_eq_ok.1 h
  constructor
  · simp [ids, openIds, openScopes, closedIds]
  · simp [ids, openIds, openScopes, closedIds, size]
  · rfl
  · simp

/-- A scale that was accepted belongs to an operator that takes one. -/
theorem needsScale_of_openingScale {op : Operator} {scale : Argument} {s : Option Int}
    (h : openingScale op scale = .ok s) (hs : s.isSome) : op.needsScale = true := by
  unfold openingScale at h
  split at h
  · assumption
  · cases h
    cases hs

namespace WellNested

theorem opened (h : c.WellNested) {op : Operator} {s : Option Int} (v : Option Decimal)
    (hs : s.isSome → op.needsScale = true) : (c.opened op s v).WellNested := by
  have hids : (c.opened op s v).ids = c.size :: c.ids := by
    simp [ids, closedIds, Chain.opened]
    rfl
  constructor
  · rw [hids, List.nodup_cons]
    refine ⟨fun hmem ↦ ?_, h.nodup_ids⟩
    exact Nat.lt_irrefl _ ((h.mem_ids_iff _).1 hmem)
  · intro id
    rw [hids, List.mem_cons, h.mem_ids_iff, size_opened]
    omega
  · rw [openIds_opened, List.getLast?_cons, h.root_open]
    rfl
  · intro w hw
    rcases List.mem_cons.1 hw with rfl | hw
    · exact hs
    · exact h.needsScale_of_scale w hw

theorem closedInto (h : c.WellNested) {w : Waiting} {rest : List Waiting}
    (henc : c.enclosing = w :: rest) (v : Decimal) : (c.closedInto w rest v).WellNested := by
  -- Closing moves a number from the open ones to the closed ones, so no number is lost or doubled.
  have hperm := ids_closedInto_perm henc v
  constructor
  · exact hperm.nodup_iff.2 h.nodup_ids
  · intro id
    rw [hperm.mem_iff, h.mem_ids_iff, size_closedInto henc]
  · have hroot := h.root_open
    rw [openIds_of_enclosing henc, List.getLast?_cons_cons] at hroot
    rw [openIds_closedInto, hroot]
  · intro w' hw'
    refine h.needsScale_of_scale w' ?_
    rw [henc]
    exact List.mem_cons_of_mem w hw'

/-- Every move keeps the invariant. -/
theorem move (h : c.WellNested) {call : Call} (hm : Move c call c') : c'.WellNested := by
  cases hm with
  | binary => exact ⟨h.nodup_ids, h.mem_ids_iff, h.root_open, h.needsScale_of_scale⟩
  | unary => exact ⟨h.nodup_ids, h.mem_ids_iff, h.root_open, h.needsScale_of_scale⟩
  | openGroup scale_ok => exact h.opened _ (needsScale_of_openingScale scale_ok)
  | close enclosing_eq => exact h.closedInto enclosing_eq _

theorem exposed_id_lt (h : c.WellNested) : c.exposed.id < c.size := by
  rw [← h.mem_ids_iff, ids_eq_cons]
  exact List.mem_cons_self

theorem nodup_openIds (h : c.WellNested) : c.openIds.Nodup := (List.nodup_append.1 h.nodup_ids).1

end WellNested

/-- A call exposes one of the scopes before, or one more. -/
theorem Move.size_cases {call : Call} (hm : Move c call c') (h : c.WellNested) :
    (c'.size = c.size ∧ c'.exposed.id < c.size) ∨
      (c'.size = c.size + 1 ∧ c'.exposed.id = c.size) := by
  have hlt := h.exposed_id_lt
  cases hm with
  | binary => exact Or.inl ⟨rfl, hlt⟩
  | unary => exact Or.inl ⟨rfl, hlt⟩
  | openGroup => exact Or.inr ⟨size_opened .., rfl⟩
  | close enclosing_eq =>
    refine Or.inl ⟨size_closedInto enclosing_eq _, ?_⟩
    rw [← h.mem_ids_iff, ids_eq_cons, enclosing_eq]
    exact List.mem_cons_of_mem _ List.mem_cons_self

end Chain

end Bracket

end ChainedDecimal
