import ChainedDecimal.Proofs.Decimal.Fitting
import ChainedDecimal.Proofs.Decimal.Order

/-!
# Pools answer with the same number

Whatever a pool keeps, its answer to a decimal represents the number that it was asked for. So it
makes no difference to any number whether a result has passed through a pool, nor through which.
-/

namespace ChainedDecimal

open Decimal (SameNumber)

namespace KeepingPool

/-- A decimal that is kept is answered by the entry of the same number, or is a new entry. -/
theorem keep_cases (p : KeepingPool) (d : Decimal) :
    (∃ e ∈ p.entries, SameNumber e d ∧ p.keep d = (e, p)) ∨
      (∀ e ∈ p.entries, ¬SameNumber e d) ∧
        p.keep d = (d, { p with entries := p.entries ++ [d] }) := by
  unfold keep
  cases hfind : p.find? d with
  | some e =>
    have hsame : SameNumber e d := (Decimal.sameValue_iff.1 (List.find?_some hfind)).symm
    exact Or.inl ⟨e, List.mem_of_find?_eq_some hfind, hsame, rfl⟩
  | none =>
    refine Or.inr ⟨fun e he hsame ↦ ?_, rfl⟩
    exact List.find?_eq_none.1 hfind e he (Decimal.sameValue_iff.2 hsame.symm)

theorem sameNumber_place (p : KeepingPool) (d : Decimal) : SameNumber (p.place d).1 d := by
  unfold place
  split
  · rfl
  · split
    · rename_i hupper
      exact (Decimal.sameNumber_of_compareValue hupper).symm
    · rfl
    · split
      · rename_i hlower
        exact (Decimal.sameNumber_of_compareValue hlower).symm
      · rfl
      · rcases p.keep_cases d with ⟨e, -, hsame, heq⟩ | ⟨-, heq⟩
        · rw [heq]
          exact hsame
        · rw [heq]

/-- An answer leaves the pool as it is, or is a new entry behind all others. -/
theorem place_cases (p : KeepingPool) (d : Decimal) :
    (p.place d).2 = p ∨ p.place d = (d, { p with entries := p.entries ++ [d] }) := by
  unfold place
  split
  · exact Or.inl rfl
  · split
    · exact Or.inl rfl
    · exact Or.inl rfl
    · split
      · exact Or.inl rfl
      · exact Or.inl rfl
      · rcases p.keep_cases d with ⟨e, -, -, heq⟩ | ⟨-, heq⟩
        · exact Or.inl (by rw [heq])
        · exact Or.inr heq

end KeepingPool

/-- Every pool, in whatever state, answers a decimal that fits by the same number. -/
theorem Pool.sameNumber_of_get {p q : Pool} {d e : Decimal} (h : d.Fits)
    (hget : p.get d = .ok (e, q)) : SameNumber e d := by
  match p with
  | .plain | .disabled =>
    cases hget
    rfl
  | .keeping p =>
    rw [Pool.get, KeepingPool.get, Decimal.normalize_of_fits h] at hget
    cases hget
    exact (p.sameNumber_place d.reduced).trans (Decimal.toRat_reduced d)

end ChainedDecimal
