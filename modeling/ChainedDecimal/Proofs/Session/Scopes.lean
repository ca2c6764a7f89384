import ChainedDecimal.Proofs.Bracket.Views
import ChainedDecimal.Proofs.Session.Frame
import ChainedDecimal.Proofs.Session.Names
import Mathlib.Data.List.Nodup

/-!
# The scopes of a session

A session keeps its bracketed chains apart and numbers all their scopes together. Its table of
scopes is what joins the two: `Numbered` says that each scope of each chain stands in it exactly
once, that the chains are well nested, and that the latest scope is the exposed one of its chain.
So a place in the table is as good a name for a scope as any, and `scope?` shows a scope with its
links given by places.
-/

namespace ChainedDecimal

namespace Session

open ChainedDecimal.Bracket

/-- The place of a scope, given by its chain and its number there. -/
def placeIn? (s : Session) (chain id : Nat) : Option Nat := s.scopes.findIdx? (· == (chain, id))

/-- The scope at a place, with the places of the scopes that it is linked to. -/
def scope? (s : Session) (i : Nat) : Option View := do
  let (chain, id) ← s.scopes[i]?
  let c ← s.brackets[chain]?
  let v ← c.view? id
  return { v with
    parent := v.parent.bind (s.placeIn? chain)
    child := v.child.bind (s.placeIn? chain) }

/-- Each scope of each chain stands in the table once, and the latest scope is an exposed one. -/
structure Numbered (s : Session) : Prop where
  /-- Every chain is well nested. -/
  wellNested : ∀ c ∈ s.brackets, c.WellNested
  /-- No scope stands in the table twice. -/
  nodup_scopes : s.scopes.Nodup
  /-- The table holds the scopes of the chains. -/
  mem_scopes_iff : ∀ chain id,
    (chain, id) ∈ s.scopes ↔ ∃ c, s.brackets[chain]? = some c ∧ id < c.size
  /-- The latest scope is the exposed one of its chain. -/
  latest_exposed : ∀ i, s.latestScope = some i →
    ∃ chain c, s.scopes[i]? = some (chain, c.exposed.id) ∧ s.brackets[chain]? = some c

variable {s t : Session} {i chain id : Nat} {c c' : Chain}

/-! ## Places -/

/-- In a table without repetitions a scope is found at the place where it stands. -/
theorem placeIn?_eq_some_iff (h : s.scopes.Nodup) :
    s.placeIn? chain id = some i ↔ s.scopes[i]? = some (chain, id) := by
  rw [placeIn?, List.findIdx?_eq_some_iff_getElem, List.getElem?_eq_some_iff]
  constructor
  · rintro ⟨hlt, hhere, -⟩
    exact ⟨hlt, by simpa using hhere⟩
  · rintro ⟨hlt, hhere⟩
    refine ⟨hlt, by simpa using hhere, fun j hj ↦ ?_⟩
    have hne : s.scopes[j] ≠ s.scopes[i] := fun heq ↦
      Nat.ne_of_lt hj ((List.Nodup.getElem_inj_iff h).1 heq)
    simpa [← hhere] using hne

theorem scope?_eq_some_iff {v : View} :
    s.scope? i = some v ↔ ∃ chain id c u, s.scopes[i]? = some (chain, id) ∧
      s.brackets[chain]? = some c ∧ c.view? id = some u ∧
      v = { u with
        parent := u.parent.bind (s.placeIn? chain)
        child := u.child.bind (s.placeIn? chain) } := by
  simp only [scope?, Option.bind_eq_bind, Option.bind_eq_some_iff, Prod.exists, Option.pure_def,
    Option.some.injEq]
  constructor
  · rintro ⟨chain, id, hi, c, hc, u, hu, rfl⟩
    exact ⟨chain, id, c, u, hi, hc, hu, rfl⟩
  · rintro ⟨chain, id, c, u, hi, hc, hu, rfl⟩
    exact ⟨chain, id, hi, c, hc, u, hu, rfl⟩

/-- The state that a reply shows of a scope says the same, with names for places. -/
theorem scopeState?_eq_some_iff {st : ScopeState} :
    s.scopeState? i = some st ↔ ∃ chain id c u v, s.scopes[i]? = some (chain, id) ∧
      s.brackets[chain]? = some c ∧ c.view? id = some u ∧ s.scope? i = some v ∧
      st = ⟨scopeName i, u, v.parent.map scopeName, v.child.map scopeName⟩ := by
  have hnames : ∀ (chain : Nat) (x : Option Nat),
      x.bind (s.scopeNameIn? chain) = (x.bind (s.placeIn? chain)).map scopeName := by
    rintro chain (_ | id) <;> rfl
  simp only [scopeState?, Option.bind_eq_bind, Option.bind_eq_some_iff, Prod.exists,
    Option.pure_def, Option.some.injEq, hnames]
  constructor
  · rintro ⟨chain, id, hi, c, hc, u, hu, rfl⟩
    exact ⟨chain, id, c, u, _, hi, hc, hu,
      scope?_eq_some_iff.2 ⟨chain, id, c, u, hi, hc, hu, rfl⟩, rfl⟩
  · rintro ⟨chain, id, c, u, v, hi, hc, hu, hv, rfl⟩
    refine ⟨chain, id, hi, c, hc, u, hu, ?_⟩
    obtain ⟨chain', id', c', u', hi', hc', hu', rfl⟩ := scope?_eq_some_iff.1 hv
    rw [hi, Option.some.injEq, Prod.mk.injEq] at hi'
    obtain ⟨rfl, rfl⟩ := hi'
    rw [hc, Option.some.injEq] at hc'
    subst hc'
    rw [hu, Option.some.injEq] at hu'
    subst hu'
    rfl

namespace Numbered

theorem initial : Session.initial.Numbered := by
  refine ⟨?_, ?_, ?_, ?_⟩ <;> simp [Session.initial]

theorem wellNested_of_get (h : s.Numbered) (hc : s.brackets[chain]? = some c) : c.WellNested :=
  h.wellNested c (List.mem_of_getElem? hc)

/-- The chain that a scope belongs to. -/
theorem exists_chain (h : s.Numbered) (hi : s.scopes[i]? = some (chain, id)) :
    ∃ c, s.brackets[chain]? = some c ∧ id < c.size :=
  (h.mem_scopes_iff chain id).1 (List.mem_of_getElem? hi)

/-- The place of a scope of a chain. -/
theorem exists_place (h : s.Numbered) (hc : s.brackets[chain]? = some c) (hid : id < c.size) :
    ∃ i : Nat, s.scopes[i]? = some (chain, id) :=
  List.mem_iff_getElem?.1 ((h.mem_scopes_iff chain id).2 ⟨c, hc, hid⟩)

/-- Every place of the table shows a scope. -/
theorem exists_scope?_iff (h : s.Numbered) : (∃ v, s.scope? i = some v) ↔ i < s.scopes.length := by
  constructor
  · rintro ⟨v, hv⟩
    obtain ⟨chain, id, c, u, hi, -⟩ := scope?_eq_some_iff.1 hv
    exact (List.getElem?_eq_some_iff.1 hi).1
  · intro hlt
    obtain ⟨⟨chain, id⟩, hi⟩ : ∃ p, s.scopes[i]? = some p := ⟨_, List.getElem?_eq_getElem hlt⟩
    obtain ⟨c, hc, hid⟩ := h.exists_chain hi
    obtain ⟨u, hu⟩ := (h.wellNested_of_get hc).exists_view?_iff.2 hid
    exact ⟨_, scope?_eq_some_iff.2 ⟨chain, id, c, u, hi, hc, hu, rfl⟩⟩

/-- The invariant speaks of nothing but the chains and their scopes. -/
theorem of_sameScopes (h : s.Numbered) (hst : SameScopes s t) : t.Numbered := by
  constructor
  · rw [hst.brackets]
    exact h.wellNested
  · rw [hst.scopes]
    exact h.nodup_scopes
  · rw [hst.scopes, hst.brackets]
    exact h.mem_scopes_iff
  · rw [hst.latestScope, hst.scopes, hst.brackets]
    exact h.latest_exposed

end Numbered

end Session

end ChainedDecimal
