import ChainedDecimal.Proofs.Decimal.Representable
import ChainedDecimal.Proofs.Pool.Requests

/-!
# The entries of a pool can be represented

A pool that keeps entries settles what it is asked for and drops trailing zeros, which moves the
exponent up. A nonzero number keeps its leading digit thereby, and a zero gets the exponent zero, so
the places still exist. They exist for a bound as well if it is the answer, for then it is the same
number as something that was settled.
-/

namespace ChainedDecimal

open Decimal (SameNumber)

namespace Decimal

variable {d e : Decimal}

theorem le_exp_reduced (h : d.isZero = false) : d.exp ≤ d.reduced.exp := by
  rw [reduced, if_neg (by simp [h])]
  exact le_stripZeros d.coeff d.exp

/-- At the units everything can be represented that can be represented at all. -/
theorem SameNumber.representable_of_exp (h : SameNumber d e) (hd : d.Representable)
    (hexp : e.exp = 0) : e.Representable := by
  have hlow : tinyExponent ≤ 0 := by decide
  have hhigh : 0 ≤ maxExponent := by decide
  exact h.representable hd (hexp.symm ▸ hlow) fun _ ↦ hexp.symm ▸ hhigh

theorem representable_reduced (h : d.Representable) : d.reduced.Representable := by
  have hsame : SameNumber d d.reduced := (toRat_reduced d).symm
  cases hzero : d.isZero with
  | true => exact hsame.representable_of_exp h (by rw [reduced_of_isZero hzero])
  | false =>
    refine hsame.representable h (h.1.trans (le_exp_reduced hzero)) fun hnone ↦ ?_
    rw [isZero_reduced, hzero] at hnone
    cases hnone

end Decimal

namespace KeepingPool

variable {p q : KeepingPool} {d e : Decimal}

/-- All entries of the pool can be represented. -/
def Representable (p : KeepingPool) : Prop := ∀ e ∈ p.entries, e.Representable

theorem representable_new (policy : PoolPolicy) : (new policy).Representable := by
  intro e he
  cases he

/-- The answer is what was asked for, the bound of the same number, or an entry. -/
theorem answer_cases (p : KeepingPool) (d : Decimal) :
    (p.place d).1 = d ∨ (∃ n, (p.place d).1 = .ofInt n ∧ SameNumber d (.ofInt n)) ∨
      (p.place d).1 ∈ p.entries := by
  unfold place
  split
  · exact Or.inl rfl
  · split
    · rename_i hupper
      exact Or.inr (Or.inl ⟨_, rfl, Decimal.sameNumber_of_compareValue hupper⟩)
    · exact Or.inl rfl
    · split
      · rename_i hlower
        exact Or.inr (Or.inl ⟨_, rfl, Decimal.sameNumber_of_compareValue hlower⟩)
      · exact Or.inl rfl
      · rcases p.keep_cases d with ⟨e, he, -, heq⟩ | ⟨-, heq⟩
        · rw [heq]
          exact Or.inr (Or.inr he)
        · rw [heq]
          exact Or.inl rfl

theorem Representable.place (h : p.Representable) (hd : d.Representable) :
    (p.place d).1.Representable ∧ (p.place d).2.Representable := by
  constructor
  · rcases p.answer_cases d with hsame | ⟨n, hbound, hnumber⟩ | hentry
    · rwa [hsame]
    · rw [hbound]
      exact hnumber.representable_of_exp hd rfl
    · exact h _ hentry
  · rcases p.place_cases d with hsame | hnew
    · rwa [hsame]
    · rw [hnew]
      intro e he
      rcases List.mem_append.1 he with hold | hlast
      · exact h e hold
      · rwa [List.mem_singleton.1 hlast]

/-- Whatever the pool is asked for, its answer can be represented, and so can its entries. -/
theorem Representable.get (h : p.Representable) (hget : p.get d = .ok (e, q)) :
    e.Representable ∧ q.Representable := by
  obtain ⟨w, hw, hplace⟩ := Fault.map_eq_ok.1 hget
  obtain ⟨v, hv, rfl⟩ := Fault.map_eq_ok.1 hw
  have hreduced := Decimal.representable_reduced (Decimal.fits_of_settle hv).representable
  obtain ⟨hanswer, hentries⟩ := h.place hreduced
  rw [hplace] at hanswer hentries
  exact ⟨hanswer, hentries⟩

end KeepingPool

namespace Pool

variable {p q : Pool}

/-- All entries of the pool can be represented, if it keeps any. -/
def Representable : Pool → Prop
  | .keeping p => p.Representable
  | _ => True

theorem Representable.clear (p : Pool) : p.clear.Representable := by
  cases p with
  | plain | disabled => trivial
  | keeping p =>
    intro e he
    cases he

/-- The entries can be represented after a request, and if what was asked for can be represented the
answer can. -/
theorem Representable.get (h : p.Representable) {d e : Decimal} (hget : p.get d = .ok (e, q)) :
    q.Representable ∧ (d.Representable → e.Representable) := by
  cases p with
  | plain | disabled =>
    cases hget
    exact ⟨trivial, id⟩
  | keeping p =>
    obtain ⟨⟨w, k⟩, hw, hq⟩ := Fault.map_eq_ok.1 hget
    cases hq
    obtain ⟨hanswer, hentries⟩ := KeepingPool.Representable.get h hw
    exact ⟨hentries, fun _ ↦ hanswer⟩

theorem Representable.getNumeral (h : p.Representable) {x y : Numeral}
    (hget : p.getNumeral x = .ok (y, q)) : q.Representable := by
  cases x with
  | finite d =>
    rw [getNumeral_finite] at hget
    obtain ⟨⟨e, k⟩, hk, heq⟩ := Fault.map_eq_ok.1 hget
    cases heq
    exact (h.get hk).1
  | special x =>
    cases p with
    | plain | disabled =>
      cases hget
      trivial
    | keeping p => cases hget

/-- The entries can be represented whatever is handed over. -/
theorem Representable.answer (h : p.Representable) {x y : Argument}
    (hanswer : p.answer x = .ok (y, q)) : q.Representable := by
  cases x with
  | decimal d =>
    rw [answer_decimal] at hanswer
    obtain ⟨⟨e, r⟩, hget, heq⟩ := Fault.map_eq_ok.1 hanswer
    cases heq
    exact (h.get hget).1
  | absent =>
    cases p with
    | plain | disabled | keeping k =>
      cases hanswer
      exact h
  | special _ | truth _ | int _ | text _ | object _ _ =>
    cases p with
    | plain | disabled =>
      cases hanswer
      exact h
    | keeping k => cases hanswer

end Pool

end ChainedDecimal
