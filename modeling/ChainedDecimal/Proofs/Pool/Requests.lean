import ChainedDecimal.Proofs.Pool

/-!
# What a pool holds of what it was asked

A pool that keeps entries is asked for decimals, and is cleared from time to time. What it holds at
any moment is told by the decimals that it was asked for since it was last cleared: of those that
its policy keeps there is one entry for each number, in reduced form.

## Which representation is held

Two nonzero decimals of one number have one reduced form, so it makes no difference which of them
came first. Zeros have two, for a reduced zero keeps its sign; the entry of a zero is the one that
was asked for first.
-/

namespace ChainedDecimal

open Decimal (SameNumber)

/-! ## Reduced forms -/

namespace Decimal

variable {a b d : Decimal}

theorem le_stripZeros (c : ℕ) (e : ℤ) : e ≤ (stripZeros c e).2 := by
  fun_induction stripZeros c e with
  | case1 c e h ih => omega
  | case2 c e h => exact le_rfl

theorem reduced_of_isZero (h : d.isZero = true) : d.reduced = ⟨d.negative, 0, 0⟩ := by
  rw [reduced, if_pos h]

@[simp] theorem isZero_reduced (d : Decimal) : d.reduced.isZero = d.isZero :=
  SameNumber.isZero_eq (toRat_reduced d)

/-- A reduced form has no trailing zeros, and a zero stands at the units. -/
theorem isReduced_reduced (d : Decimal) :
    d.reduced.coeff % 10 ≠ 0 ∨ d.reduced.coeff = 0 ∧ d.reduced.exp = 0 := by
  unfold reduced
  split
  · exact Or.inr ⟨rfl, rfl⟩
  · rename_i hzero
    exact Or.inl (stripZeros_ne_zero d.exp (by simpa [isZero] using hzero))

/-- An integer has no digits after the point. -/
theorem exp_reduced_nonneg {n : ℤ} (h : SameNumber d (ofInt n)) : 0 ≤ d.reduced.exp := by
  cases hzero : d.isZero with
  | true => rw [reduced_of_isZero hzero]
  | false =>
    rw [reduced_eq_of_sameNumber hzero h, reduced]
    split
    · exact le_rfl
    · exact le_stripZeros _ _

end Decimal

/-! ## Policies -/

namespace PoolPolicy

/-- Whether a decimal is to be kept: in reduced form it has no more digits after the point than the
policy allows, and it lies strictly between the bounds. -/
def Keeps (p : PoolPolicy) (d : Decimal) : Prop :=
  -d.reduced.exp ≤ p.maxScale ∧ -(p.bound : ℚ) < d.toRat ∧ d.toRat < p.bound

/-- The answer that no request before has a part in: a bound as a plain integer, and everything else
in reduced form. -/
def plainAnswer (p : PoolPolicy) (d : Decimal) : Decimal :=
  if d.toRat = p.bound then p.upper else if d.toRat = -p.bound then p.lower else d.reduced

variable (p : PoolPolicy) {d : Decimal}

theorem toRat_upper : p.upper.toRat = p.bound := by
  rw [upper, Decimal.toRat_ofInt, Int.cast_natCast]

theorem toRat_lower : p.lower.toRat = -p.bound := by
  rw [lower, Decimal.toRat_ofInt, Int.cast_neg, Int.cast_natCast]

theorem keeps_of_isZero (h : d.isZero = true) : p.Keeps d := by
  have hbound : (0 : ℚ) < p.bound := by exact_mod_cast p.bound_pos
  rw [Keeps, Decimal.reduced_of_isZero h, Decimal.toRat_eq_zero_iff.2 h]
  exact ⟨by simp, neg_neg_of_pos hbound, hbound⟩

theorem plainAnswer_of_keeps (h : p.Keeps d) : p.plainAnswer d = d.reduced := by
  rw [plainAnswer, if_neg h.2.2.ne, if_neg h.2.1.ne']

end PoolPolicy

namespace KeepingPool

variable (p : KeepingPool) {d : Decimal}

/-! ## One request -/

theorem get_of_fits (h : d.Fits) : p.get d = .ok (p.place d.reduced) := by
  rw [get, Decimal.normalize_of_fits h]
  rfl

theorem place_of_keeps (h : p.policy.Keeps d) : p.place d.reduced = p.keep d.reduced := by
  obtain ⟨hscale, hlower, hupper⟩ := h
  have hbelow : d.reduced.compareValue p.policy.upper = .lt := by
    rw [(Decimal.compares_compareValue _ _).eq_lt, Decimal.toRat_reduced, p.policy.toRat_upper]
    exact hupper
  have habove : d.reduced.compareValue p.policy.lower = .gt := by
    rw [(Decimal.compares_compareValue _ _).eq_gt, Decimal.toRat_reduced, p.policy.toRat_lower]
    exact hlower
  rw [place, if_neg (by omega), hbelow, habove]

/-- What is not to be kept leaves the pool as it is. -/
theorem place_of_not_keeps (h : ¬p.policy.Keeps d) :
    p.place d.reduced = (p.policy.plainAnswer d, p) := by
  have hupper := Decimal.compares_compareValue d.reduced p.policy.upper
  have hlower := Decimal.compares_compareValue d.reduced p.policy.lower
  rw [Decimal.toRat_reduced, p.policy.toRat_upper] at hupper
  rw [Decimal.toRat_reduced, p.policy.toRat_lower] at hlower
  have hbound : (0 : ℚ) < p.policy.bound := by exact_mod_cast p.policy.bound_pos
  unfold place PoolPolicy.plainAnswer
  split
  · -- A bound is an integer, so what has digits after the point is none.
    rename_i hscale
    have hne : ∀ n : ℤ, ¬SameNumber d (.ofInt n) := by
      intro n hn
      have := Decimal.exp_reduced_nonneg hn
      omega
    rw [if_neg fun heq ↦ hne p.policy.bound (heq.trans p.policy.toRat_upper.symm),
      if_neg fun heq ↦ hne (-p.policy.bound) (heq.trans p.policy.toRat_lower.symm)]
  · rename_i hscale
    cases hcmp : d.reduced.compareValue p.policy.upper with
    | eq => rw [if_pos (hupper.eq_eq.1 hcmp)]
    | gt =>
      have hlt := hupper.eq_gt.1 hcmp
      rw [if_neg hlt.ne', if_neg (((neg_neg_of_pos hbound).trans hbound).trans hlt).ne']
    | lt =>
      have hlt := hupper.eq_lt.1 hcmp
      rw [if_neg hlt.ne]
      cases hcmp' : d.reduced.compareValue p.policy.lower with
      | eq => rw [if_pos (hlower.eq_eq.1 hcmp')]
      | lt => rw [if_neg (hlower.eq_lt.1 hcmp').ne]
      | gt => exact absurd ⟨by omega, hlower.eq_gt.1 hcmp', hlt⟩ h

/-! ## Any requests -/

/-- What a pool is asked: for its answer to a decimal within the limits, or to forget. -/
inductive Request where
  | get (d : Decimal) (fits : d.Fits)
  | clear

/-- The pool after a request. -/
def after (p : KeepingPool) : Request → KeepingPool
  | .get d _ =>
    match p.get d with
    | .ok answer => answer.2
    | .error _ => p
  | .clear => p.clear

/-- The pool after some requests. -/
def afterAll (p : KeepingPool) (requests : List Request) : KeepingPool := requests.foldl after p

/-- The decimals that a pool was asked for since it was last cleared, the first one first. -/
def asked (requests : List Request) : List Decimal :=
  requests.foldl (fun ds request ↦
    match request with
    | .get d _ => ds ++ [d]
    | .clear => []) []

/-- Of the decimals asked for since the pool was last cleared those that are to be kept are held,
each number once. -/
structure Holds (p : KeepingPool) (ds : List Decimal) : Prop where
  /-- No two entries are the same number. -/
  distinct : p.entries.Pairwise fun a b ↦ ¬SameNumber a b
  /-- An entry is the reduced form of a decimal that was asked for and is to be kept. -/
  origin : ∀ e ∈ p.entries, ∃ d ∈ ds, p.policy.Keeps d ∧ e = d.reduced
  /-- A decimal that was asked for and is to be kept has an entry. -/
  held : ∀ d ∈ ds, p.policy.Keeps d → ∃ e ∈ p.entries, SameNumber e d
  /-- The entry of a zero is the first zero that was asked for. -/
  first_zero : ∀ e ∈ p.entries, e.isZero = true → (ds.find? Decimal.isZero).map .reduced = some e

variable {p} {ds : List Decimal}

theorem after_get (h : d.Fits) : p.after (.get d h) = (p.place d.reduced).2 := by
  rw [after, p.get_of_fits h]

namespace Holds

theorem new (policy : PoolPolicy) : (KeepingPool.new policy).Holds [] := by
  constructor <;> simp [KeepingPool.new]

/-- More decimals have been asked for, and there are entries for them already. -/
theorem append_of_held (h : p.Holds ds) (hd : p.policy.Keeps d → ∃ e ∈ p.entries, SameNumber e d) :
    p.Holds (ds ++ [d]) := by
  refine ⟨h.distinct, fun e he ↦ ?_, ?_, fun e he hzero ↦ ?_⟩
  · obtain ⟨x, hx, hkeeps⟩ := h.origin e he
    exact ⟨x, List.mem_append_left _ hx, hkeeps⟩
  · exact List.forall_mem_append.2 ⟨h.held, List.forall_mem_singleton.2 hd⟩
  · obtain ⟨z, hz, hze⟩ := Option.map_eq_some_iff.1 (h.first_zero e he hzero)
    rw [List.find?_append, hz, Option.some_or, Option.map_some, hze]

/-- Where a zero has no entry, none was asked for. -/
theorem find?_isZero_of_new (h : p.Holds ds) (hzero : d.isZero = true)
    (hnew : ∀ e ∈ p.entries, ¬SameNumber e d) : ds.find? Decimal.isZero = none := by
  refine List.find?_eq_none.2 fun x hx hxzero ↦ ?_
  obtain ⟨e, he, hsame⟩ := h.held x hx (p.policy.keeps_of_isZero hxzero)
  have hxd : SameNumber x d := by
    rw [SameNumber, Decimal.toRat_eq_zero_iff.2 hxzero, Decimal.toRat_eq_zero_iff.2 hzero]
  exact hnew e he (hsame.trans hxd)

/-- A number that has not been asked for makes a new entry. -/
theorem append_of_new (h : p.Holds ds) (hkeeps : p.policy.Keeps d)
    (hnew : ∀ e ∈ p.entries, ¬SameNumber e d.reduced) :
    Holds { p with entries := p.entries ++ [d.reduced] } (ds ++ [d]) := by
  have hnumber : ∀ e, SameNumber e d → SameNumber e d.reduced := fun e he ↦
    he.trans (Decimal.toRat_reduced d).symm
  refine ⟨?_, ?_, ?_, ?_⟩
  · refine List.pairwise_append.2 ⟨h.distinct, List.pairwise_singleton _ _, fun e he x hx ↦ ?_⟩
    rw [List.mem_singleton.1 hx]
    exact hnew e he
  · refine List.forall_mem_append.2 ⟨fun e he ↦ ?_, List.forall_mem_singleton.2 ?_⟩
    · obtain ⟨x, hx, hx'⟩ := h.origin e he
      exact ⟨x, List.mem_append_left _ hx, hx'⟩
    · exact ⟨d, List.mem_append_right _ List.mem_cons_self, hkeeps, rfl⟩
  · refine List.forall_mem_append.2 ⟨fun x hx hkeeps' ↦ ?_, List.forall_mem_singleton.2 fun _ ↦ ?_⟩
    · obtain ⟨e, he, hsame⟩ := h.held x hx hkeeps'
      exact ⟨e, List.mem_append_left _ he, hsame⟩
    · exact ⟨d.reduced, List.mem_append_right _ List.mem_cons_self, Decimal.toRat_reduced d⟩
  · refine List.forall_mem_append.2
      ⟨fun e he hzero ↦ ?_, List.forall_mem_singleton.2 fun hzero ↦ ?_⟩
    · obtain ⟨z, hz, hze⟩ := Option.map_eq_some_iff.1 (h.first_zero e he hzero)
      rw [List.find?_append, hz, Option.some_or, Option.map_some, hze]
    · rw [Decimal.isZero_reduced] at hzero
      have hnone := h.find?_isZero_of_new hzero fun e he hsame ↦ hnew e he (hnumber e hsame)
      rw [List.find?_append, hnone, Option.none_or, List.find?_cons_of_pos hzero, Option.map_some]

theorem place (h : p.Holds ds) (d : Decimal) : (p.place d.reduced).2.Holds (ds ++ [d]) := by
  by_cases hkeeps : p.policy.Keeps d
  · rw [p.place_of_keeps hkeeps]
    rcases p.keep_cases d.reduced with ⟨e, he, hsame, heq⟩ | ⟨hnew, heq⟩
    · rw [heq]
      exact h.append_of_held fun _ ↦ ⟨e, he, hsame.trans (Decimal.toRat_reduced d)⟩
    · rw [heq]
      exact h.append_of_new hkeeps hnew
  · rw [p.place_of_not_keeps hkeeps]
    exact h.append_of_held fun hkeeps' ↦ absurd hkeeps' hkeeps

end Holds

end KeepingPool

end ChainedDecimal
