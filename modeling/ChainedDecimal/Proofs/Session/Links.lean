import ChainedDecimal.Proofs.Session.Steps

/-!
# The links between scopes

A scope shows the scope that it is nested in, its parent, and the scope nested in it, its child. All
that can be said of these links comes from one description, `OpenAt`: the open scopes of a chain
have positions, counted from the exposed scope, and a scope is the parent of another exactly if its
position is the next.
-/

namespace ChainedDecimal

namespace Session

open ChainedDecimal.Bracket

/-- The first scope shows the second as its parent. -/
def ParentLink (s : Session) (i j : Nat) : Prop := ∃ v, s.scope? i = some v ∧ v.parent = some j

/-- The first scope shows the second as its child. -/
def ChildLink (s : Session) (i j : Nat) : Prop := ∃ v, s.scope? i = some v ∧ v.child = some j

/-- The scope was closed. -/
def IsClosed (s : Session) (i : Nat) : Prop := ∃ v, s.scope? i = some v ∧ v.closed = true

/-- The scope is there and was not closed. -/
def IsOpen (s : Session) (i : Nat) : Prop := ∃ v, s.scope? i = some v ∧ v.closed = false

/-- The scope is open and has no child. -/
def IsExposed (s : Session) (i : Nat) : Prop :=
  ∃ v, s.scope? i = some v ∧ v.closed = false ∧ v.child = none

/-- The chain that a scope belongs to. -/
def treeOf? (s : Session) (i : Nat) : Option Nat := s.scopes[i]?.map Prod.fst

/-- The scope at a place is open, and has a position among the open scopes of its chain. -/
def OpenAt (s : Session) (i chain n : Nat) : Prop :=
  ∃ c id, s.scopes[i]? = some (chain, id) ∧ s.brackets[chain]? = some c ∧ c.openIds[n]? = some id

variable {s t : Session} {i j k m n : Nat} {c c' : Chain} {v : View}

/-! ## Positions -/

theorem lt_length_of_openAt (hn : s.OpenAt i k n) (hc : s.brackets[k]? = some c) :
    n < c.openIds.length := by
  obtain ⟨c', id, -, hc', hid⟩ := hn
  rw [hc, Option.some.injEq] at hc'
  subst hc'
  exact (List.getElem?_eq_some_iff.1 hid).1

namespace Numbered

/-- Every position there is has a scope. -/
theorem exists_openAt (h : s.Numbered) (hc : s.brackets[k]? = some c)
    (hn : n < c.openIds.length) : ∃ i, s.OpenAt i k n := by
  have hid : c.openIds[n]? = some c.openIds[n] := List.getElem?_eq_getElem hn
  have hmem : c.openIds[n] ∈ c.ids := List.mem_append_left _ (List.getElem_mem hn)
  have hlt := ((h.wellNested_of_get hc).mem_ids_iff _).1 hmem
  obtain ⟨i, hi⟩ := h.exists_place hc hlt
  exact ⟨i, c, _, hi, hc, hid⟩

/-- What is seen of a scope, by its position if it is open. -/
theorem scope?_of_openAt (h : s.Numbered) (hn : s.OpenAt i k n) :
    ∃ c u, s.brackets[k]? = some c ∧ c.openView n = some u ∧
      s.scope? i = some { u with
        parent := u.parent.bind (s.placeIn? k)
        child := u.child.bind (s.placeIn? k) } := by
  obtain ⟨c, id, hi, hc, hid⟩ := hn
  have hlt : n < c.openIds.length := (List.getElem?_eq_some_iff.1 hid).1
  obtain ⟨u, hu⟩ := Option.isSome_iff_exists.1 (Chain.openView_isSome_iff.2 hlt)
  refine ⟨c, u, hc, hu, scope?_eq_some_iff.2 ⟨k, id, c, u, hi, hc, ?_, rfl⟩⟩
  rw [(h.wellNested_of_get hc).view?_of_open hid, hu]

theorem eq_of_scope? (h : s.Numbered) (hn : s.OpenAt i k n) (hv : s.scope? i = some v) :
    ∃ c u, s.brackets[k]? = some c ∧ c.openView n = some u ∧
      v = { u with
        parent := u.parent.bind (s.placeIn? k)
        child := u.child.bind (s.placeIn? k) } := by
  obtain ⟨c, u, hc, hu, hv'⟩ := h.scope?_of_openAt hn
  rw [hv, Option.some.injEq] at hv'
  exact ⟨c, u, hc, hu, hv'⟩

/-- A scope that is seen has a position, or was closed. -/
theorem scope?_cases (h : s.Numbered) (hv : s.scope? i = some v) :
    (∃ k n, s.OpenAt i k n) ∨ ∃ x, v = Chain.closedView x := by
  obtain ⟨k, id, c, u, hi, hc, hu, rfl⟩ := scope?_eq_some_iff.1 hv
  rcases (h.wellNested_of_get hc).view?_cases hu with ⟨n, hid, -⟩ | ⟨x, -, -, rfl⟩
  · exact Or.inl ⟨k, n, c, id, hi, hc, hid⟩
  · exact Or.inr ⟨x, rfl⟩

/-- A place named by a view is that of the position it is taken from. -/
theorem bind_placeIn?_iff (h : s.Numbered) (hc : s.brackets[k]? = some c) :
    (c.openIds[n]?).bind (s.placeIn? k) = some j ↔ s.OpenAt j k n := by
  rw [Option.bind_eq_some_iff]
  constructor
  · rintro ⟨id, hid, hj⟩
    exact ⟨c, id, (placeIn?_eq_some_iff h.nodup_scopes).1 hj, hc, hid⟩
  · rintro ⟨c', id, hj, hc', hid⟩
    rw [hc, Option.some.injEq] at hc'
    subst hc'
    exact ⟨id, hid, (placeIn?_eq_some_iff h.nodup_scopes).2 hj⟩

/-! ## Links and positions -/

/-- The parent is at the next position. -/
theorem parentLink_iff (h : s.Numbered) :
    s.ParentLink i j ↔ ∃ k n, s.OpenAt i k n ∧ s.OpenAt j k (n + 1) := by
  constructor
  · rintro ⟨v, hv, hparent⟩
    rcases h.scope?_cases hv with ⟨k, n, hn⟩ | ⟨x, rfl⟩
    · obtain ⟨c, u, hc, hu, rfl⟩ := h.eq_of_scope? hn hv
      rw [Chain.openView_parent hu] at hparent
      exact ⟨k, n, hn, (h.bind_placeIn?_iff hc).1 hparent⟩
    · cases hparent
  · rintro ⟨k, n, hn, hj⟩
    obtain ⟨c, u, hc, hu, hv⟩ := h.scope?_of_openAt hn
    refine ⟨_, hv, ?_⟩
    rw [Chain.openView_parent hu]
    exact (h.bind_placeIn?_iff hc).2 hj

/-- The child is at the position before. -/
theorem childLink_iff (h : s.Numbered) :
    s.ChildLink i j ↔ ∃ k n, s.OpenAt i k (n + 1) ∧ s.OpenAt j k n := by
  constructor
  · rintro ⟨v, hv, hchild⟩
    rcases h.scope?_cases hv with ⟨k, n, hn⟩ | ⟨x, rfl⟩
    · obtain ⟨c, u, hc, hu, rfl⟩ := h.eq_of_scope? hn hv
      rw [Chain.openView_child hu] at hchild
      cases n with
      | zero => cases hchild
      | succ n => exact ⟨k, n, hn, (h.bind_placeIn?_iff hc).1 hchild⟩
    · cases hchild
  · rintro ⟨k, n, hn, hj⟩
    obtain ⟨c, u, hc, hu, hv⟩ := h.scope?_of_openAt hn
    refine ⟨_, hv, ?_⟩
    rw [Chain.openView_child hu]
    exact (h.bind_placeIn?_iff hc).2 hj

/-- An open scope is one that has a position. -/
theorem isOpen_iff (h : s.Numbered) : s.IsOpen i ↔ ∃ k n, s.OpenAt i k n := by
  constructor
  · rintro ⟨v, hv, hopen⟩
    rcases h.scope?_cases hv with hpos | ⟨x, rfl⟩
    · exact hpos
    · cases hopen
  · rintro ⟨k, n, hn⟩
    obtain ⟨c, u, -, hu, hv⟩ := h.scope?_of_openAt hn
    have hopen : u.closed = false := Chain.openView_closed hu
    exact ⟨_, hv, hopen⟩

/-- The exposed scopes are those at position zero. -/
theorem isExposed_iff (h : s.Numbered) : s.IsExposed i ↔ ∃ k, s.OpenAt i k 0 := by
  constructor
  · rintro ⟨v, hv, hopen, hchild⟩
    obtain ⟨k, n, hn⟩ := h.isOpen_iff.1 ⟨v, hv, hopen⟩
    cases n with
    | zero => exact ⟨k, hn⟩
    | succ n =>
      obtain ⟨c, -, hc, -⟩ := h.eq_of_scope? hn hv
      obtain ⟨j, hj⟩ := h.exists_openAt hc (Nat.lt_of_succ_lt (lt_length_of_openAt hn hc))
      obtain ⟨w, hw, hwchild⟩ := h.childLink_iff.2 ⟨k, n, hn, hj⟩
      rw [hv, Option.some.injEq] at hw
      rw [← hw, hchild] at hwchild
      cases hwchild
  · rintro ⟨k, hn⟩
    obtain ⟨c, u, -, hu, hv⟩ := h.scope?_of_openAt hn
    have hopen : u.closed = false := Chain.openView_closed hu
    refine ⟨_, hv, hopen, ?_⟩
    rw [Chain.openView_child hu]
    rfl

end Numbered

end Session

end ChainedDecimal
