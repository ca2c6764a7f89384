import ChainedDecimal.Bracket.View
import ChainedDecimal.Proofs.Bracket.Scopes

/-!
# Scopes as they are seen

What is seen of an open scope depends on its position alone: it is nested in the next open scope,
has the previous one nested in it, and its depth is the number of open scopes behind it. So two
positions are neighbours exactly if either view names the other scope, which is all there is to say
about links within a chain.
-/

namespace ChainedDecimal

namespace Bracket

namespace Chain

/-- The view of the open scope at a position, counted from the exposed scope. -/
def openView (c : Chain) : Nat → Option View
  | 0 => some c.exposedView
  | n + 1 => c.enclosing[n]?.map fun w ↦
    { value := w.scope.value
      pending := w.pending
      scale := w.scale
      parent := c.openIds[n + 2]?
      child := c.openIds[n]?
      depth := c.enclosing.length - (n + 1)
      closed := false }

variable {c : Chain} {id n : Nat} {v : View}

/-! ## The view of a number -/

private theorem lookup_eq_some_iff_mem {l : List (Nat × View)} (h : (l.map Prod.fst).Nodup) :
    l.lookup id = some v ↔ (id, v) ∈ l := by
  induction l with
  | nil => simp
  | cons p l ih =>
    obtain ⟨k, u⟩ := p
    rw [List.map_cons, List.nodup_cons] at h
    rw [List.lookup_cons, List.mem_cons, Prod.mk.injEq]
    by_cases hk : id = k
    · subst hk
      have hnot : (id, v) ∉ l := fun hmem ↦ h.1 (List.mem_map.2 ⟨_, hmem, rfl⟩)
      simp [hnot, eq_comm]
    · rw [beq_false_of_ne hk]
      simp [hk, ih h.2]

private theorem map_fst_waitingViews (inner : Nat) (ws : List Waiting) :
    (waitingViews inner ws).map Prod.fst = ws.map (·.scope.id) := by
  induction ws generalizing inner with
  | nil => rfl
  | cons w ws ih => rw [waitingViews, List.map_cons, ih, List.map_cons]

/-- Every scope is shown once. -/
theorem map_fst_views (c : Chain) : c.views.map Prod.fst = c.ids := by
  rw [views, List.map_append, List.map_cons, map_fst_waitingViews, List.map_map, ids_eq_cons]
  rfl

theorem WellNested.view?_eq_some_iff (h : c.WellNested) :
    c.view? id = some v ↔ (id, v) ∈ c.views := by
  apply lookup_eq_some_iff_mem
  rw [map_fst_views]
  exact h.nodup_ids

/-- Exactly the scopes there have been are shown. -/
theorem WellNested.exists_view?_iff (h : c.WellNested) :
    (∃ v, c.view? id = some v) ↔ id < c.size := by
  rw [← h.mem_ids_iff, ← map_fst_views, List.mem_map]
  constructor
  · rintro ⟨v, hv⟩
    exact ⟨(id, v), h.view?_eq_some_iff.1 hv, rfl⟩
  · rintro ⟨⟨id', v⟩, hmem, rfl⟩
    exact ⟨v, h.view?_eq_some_iff.2 hmem⟩

/-! ## Views by position -/

/-- The views of enclosing scopes, position by position. -/
private theorem getElem?_waitingViews (inner : Nat) (ws : List Waiting) (n : Nat) :
    (waitingViews inner ws)[n]? = ws[n]?.map fun w ↦
      (w.scope.id,
        { value := w.scope.value
          pending := w.pending
          scale := w.scale
          parent := (ws.map (·.scope.id))[n + 1]?
          child := (inner :: ws.map (·.scope.id))[n]?
          depth := ws.length - (n + 1)
          closed := false }) := by
  induction ws generalizing inner n with
  | nil => rfl
  | cons w ws ih =>
    rw [waitingViews]
    cases n with
    | zero =>
      -- The first enclosing scope has the given scope for a child, and the next one for a parent.
      have hinner : innermost ws = (ws.map (·.scope.id))[0]? := by
        cases ws <;> rfl
      simp [hinner]
    | succ n => simp [ih]

/-- An open scope is shown by the view of its position. -/
theorem WellNested.view?_of_open (h : c.WellNested) (hid : c.openIds[n]? = some id) :
    c.view? id = c.openView n := by
  cases n with
  | zero =>
    have hexp : c.exposed.id = id := by simpa [openIds, openScopes] using hid
    subst hexp
    rw [openView, h.view?_eq_some_iff, views]
    exact List.mem_cons_self
  | succ n =>
    have hwid : (c.enclosing[n]?).map (·.scope.id) = some id := by
      simpa [openIds, openScopes] using hid
    obtain ⟨w, hw, rfl⟩ := Option.map_eq_some_iff.1 hwid
    have hget := getElem?_waitingViews c.exposed.id c.enclosing n
    rw [hw, Option.map_some] at hget
    have hmem := List.mem_of_getElem? hget
    have htail : c.openIds = c.exposed.id :: c.enclosing.map (·.scope.id) := by
      simp [openIds, openScopes]
    rw [openView, hw, Option.map_some, h.view?_eq_some_iff, views, htail]
    exact List.mem_append_left _ (List.mem_cons_of_mem _ hmem)

theorem WellNested.view?_of_closed (h : c.WellNested) {s : Scope} (hs : s ∈ c.closed) :
    c.view? s.id = some (closedView s) := by
  rw [h.view?_eq_some_iff, views]
  exact List.mem_append_right _ (List.mem_map_of_mem hs)

/-- A scope that is shown is open at some position, or closed. -/
theorem WellNested.view?_cases (h : c.WellNested) (hv : c.view? id = some v) :
    (∃ n, c.openIds[n]? = some id ∧ c.openView n = some v) ∨
      ∃ s ∈ c.closed, s.id = id ∧ closedView s = v := by
  have hmem : id ∈ c.ids := (h.mem_ids_iff id).2 (h.exists_view?_iff.1 ⟨v, hv⟩)
  rcases List.mem_append.1 hmem with hopen | hclosed
  · obtain ⟨n, hn⟩ := List.mem_iff_getElem?.1 hopen
    exact Or.inl ⟨n, hn, by rw [← h.view?_of_open hn, hv]⟩
  · obtain ⟨s, hs, rfl⟩ := List.mem_map.1 hclosed
    rw [h.view?_of_closed hs, Option.some.injEq] at hv
    exact Or.inr ⟨s, hs, rfl, hv⟩

/-! ## What the view of an open scope shows -/

theorem openView_closed (hv : c.openView n = some v) : v.closed = false := by
  cases n with
  | zero =>
    cases hv
    rfl
  | succ n =>
    obtain ⟨w, -, rfl⟩ := Option.map_eq_some_iff.1 hv
    rfl

theorem openView_parent (hv : c.openView n = some v) : v.parent = c.openIds[n + 1]? := by
  cases n with
  | zero =>
    cases hv
    cases henc : c.enclosing <;> simp [exposedView, innermost, openIds, openScopes, henc]
  | succ n =>
    obtain ⟨w, -, rfl⟩ := Option.map_eq_some_iff.1 hv
    rfl

theorem openView_child (hv : c.openView n = some v) :
    v.child = if n = 0 then none else c.openIds[n - 1]? := by
  cases n with
  | zero =>
    cases hv
    rfl
  | succ n =>
    obtain ⟨w, -, rfl⟩ := Option.map_eq_some_iff.1 hv
    rfl

theorem openView_depth (hv : c.openView n = some v) : v.depth + n = c.enclosing.length := by
  cases n with
  | zero =>
    cases hv
    rfl
  | succ n =>
    obtain ⟨w, hw, rfl⟩ := Option.map_eq_some_iff.1 hv
    have hlt : n < c.enclosing.length := (List.getElem?_eq_some_iff.1 hw).1
    exact Nat.sub_add_cancel hlt

/-- A scope is seen with links to scopes of its chain. -/
theorem WellNested.mem_ids_of_view? (h : c.WellNested) {v : View}
    (hv : c.view? id = some v) {q : Nat} (hq : v.parent = some q ∨ v.child = some q) :
    q ∈ c.ids := by
  rcases h.view?_cases hv with ⟨n, -, hview⟩ | ⟨x, -, -, rfl⟩
  · refine List.mem_append_left _ ?_
    rcases hq with hq | hq
    · rw [openView_parent hview] at hq
      exact List.mem_of_getElem? hq
    · rw [openView_child hview] at hq
      split at hq
      · cases hq
      · exact List.mem_of_getElem? hq
  · rcases hq with hq | hq <;> cases hq

theorem openView_isSome_iff : (c.openView n).isSome ↔ n < c.openIds.length := by
  rw [length_openIds]
  cases n with
  | zero => simp [openView]
  | succ n => simp [openView]

end Chain

end Bracket

end ChainedDecimal
