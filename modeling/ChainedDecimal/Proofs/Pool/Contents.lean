import ChainedDecimal.Proofs.Pool.Requests
import Mathlib.Data.Int.Interval

/-!
# The contents of a pool

After any requests a pool holds exactly the numbers that it was asked for since it was last cleared
and that its policy keeps. The entries are pairwise different numbers, in reduced form and within
the policy; so there are no more of them than there are places for them.

## How many entries there can be

An entry has at most as many digits after the point as the policy allows. Read as an integer at the
place of the last of these digits it determines its number, and it lies strictly between the bounds
at that place. The number of entries is at most the number of these integers.
-/

namespace ChainedDecimal

open Decimal (SameNumber)

/-! ## Numbers with few digits after the point -/

namespace Decimal

variable {d e : Decimal}

/-- With at most `k` digits after the point a number is told by an integer. -/
theorem sameNumber_of_signedAt {k : ℕ} (hd : -d.exp ≤ k) (he : -e.exp ≤ k)
    (h : d.signedAt (-k) = e.signedAt (-k)) : SameNumber d e := by
  rw [SameNumber, toRat_eq_signedAt (show -(k : ℤ) ≤ d.exp by omega),
    toRat_eq_signedAt (show -(k : ℤ) ≤ e.exp by omega), h]

theorem toRat_mul_pow {k : ℕ} (h : -d.exp ≤ k) : d.toRat * (10 : ℚ) ^ k = d.signedAt (-k) := by
  have hpow : ((10 : ℚ) ^ k) ≠ 0 := by positivity
  rw [toRat_eq_signedAt (show -(k : ℤ) ≤ d.exp by omega), zpow_neg, zpow_natCast,
    inv_mul_cancel_right₀ hpow]

/-- This integer lies between the bounds as the number does. -/
theorem signedAt_between {k b : ℕ} (hscale : -d.exp ≤ k) (hlower : -(b : ℚ) < d.toRat)
    (hupper : d.toRat < b) :
    -(b * 10 ^ k : ℤ) < d.signedAt (-k) ∧ d.signedAt (-k) < b * 10 ^ k := by
  have hpow : (0 : ℚ) < (10 : ℚ) ^ k := by positivity
  have hlower' := mul_lt_mul_of_pos_right hlower hpow
  have hupper' := mul_lt_mul_of_pos_right hupper hpow
  rw [toRat_mul_pow hscale] at hlower' hupper'
  constructor
  · rw [neg_mul] at hlower'
    exact_mod_cast hlower'
  · exact_mod_cast hupper'

end Decimal

namespace KeepingPool

variable {p : KeepingPool} {ds : List Decimal} {d e : Decimal}

/-! ## One step after another -/

@[simp] theorem policy_after (p : KeepingPool) (request : Request) :
    (p.after request).policy = p.policy := by
  cases request with
  | get d h =>
    rw [after_get h]
    rcases p.place_cases d.reduced with heq | heq <;> rw [heq]
  | clear => rfl

theorem afterAll_append (p : KeepingPool) (requests more : List Request) :
    p.afterAll (requests ++ more) = (p.afterAll requests).afterAll more :=
  List.foldl_append

theorem asked_get (requests : List Request) (h : d.Fits) :
    asked (requests ++ [.get d h]) = asked requests ++ [d] :=
  List.foldl_append

theorem asked_clear (requests : List Request) : asked (requests ++ [.clear]) = [] :=
  List.foldl_append

@[simp] theorem policy_afterAll (p : KeepingPool) (requests : List Request) :
    (p.afterAll requests).policy = p.policy := by
  induction requests using List.reverseRecOn with
  | nil => rfl
  | append_singleton requests request ih =>
    rw [afterAll_append]
    exact (policy_after _ request).trans ih

/-- A pool that was new holds what it was asked for since it was last cleared. -/
theorem holds_of_run (policy : PoolPolicy) (requests : List Request) :
    ((new policy).afterAll requests).Holds (asked requests) := by
  induction requests using List.reverseRecOn with
  | nil => exact Holds.new policy
  | append_singleton requests request ih =>
    rw [afterAll_append]
    change (((new policy).afterAll requests).after request).Holds _
    cases request with
    | get d h =>
      rw [asked_get, after_get h]
      exact ih.place d
    | clear =>
      rw [asked_clear]
      constructor <;> simp [after, clear]

/-! ## The contents -/

/-- How a pool that was new under a policy remembers what it was asked for since it was last
cleared. -/
structure Remembers (policy : PoolPolicy) (p : KeepingPool) (ds : List Decimal) : Prop where
  /-- The policy is the same as ever. -/
  policy_eq : p.policy = policy
  /-- Whatever a pool is asked for, it answers with the same number; and it stays as it is or has
  one more entry at the end. -/
  answers : ∀ d : Decimal, d.Fits → ∃ e q, p.get d = .ok (e, q) ∧ SameNumber e d ∧
    (q = p ∨ q = { p with entries := p.entries ++ [e] })
  /-- No two entries are the same number. -/
  distinct : p.entries.Pairwise fun a b ↦ ¬SameNumber a b
  /-- An entry has no trailing zeros, and a zero stands at the units. -/
  isReduced : ∀ e ∈ p.entries, e.coeff % 10 ≠ 0 ∨ e.coeff = 0 ∧ e.exp = 0
  /-- An entry lies strictly between the bounds. -/
  within : ∀ e ∈ p.entries, -(policy.bound : ℚ) < e.toRat ∧ e.toRat < policy.bound
  /-- An entry has no more digits after the point than it may have. -/
  scale_le : ∀ e ∈ p.entries, -e.exp ≤ policy.maxScale
  /-- The numbers of the entries are those that were asked for and that are to be kept. -/
  numbers : ∀ x : ℚ, (∃ e ∈ p.entries, e.toRat = x) ↔ ∃ d ∈ ds, policy.Keeps d ∧ d.toRat = x
  /-- There are at most as many entries as there are places between the bounds. -/
  size_le : p.size ≤ 2 * policy.bound * 10 ^ policy.maxScale - 1

theorem exists_answer (p : KeepingPool) (h : d.Fits) :
    ∃ e q, p.get d = .ok (e, q) ∧ SameNumber e d ∧
      (q = p ∨ q = { p with entries := p.entries ++ [e] }) := by
  have hsame := (p.sameNumber_place d.reduced).trans (Decimal.toRat_reduced d)
  refine ⟨(p.place d.reduced).1, (p.place d.reduced).2, p.get_of_fits h, hsame, ?_⟩
  rcases p.place_cases d.reduced with heq | heq
  · exact Or.inl heq
  · exact Or.inr (by rw [heq])

namespace Holds

theorem isReduced (h : p.Holds ds) (he : e ∈ p.entries) :
    e.coeff % 10 ≠ 0 ∨ e.coeff = 0 ∧ e.exp = 0 := by
  obtain ⟨d, -, -, rfl⟩ := h.origin e he
  exact Decimal.isReduced_reduced d

theorem within (h : p.Holds ds) (he : e ∈ p.entries) :
    -e.exp ≤ p.policy.maxScale ∧ -(p.policy.bound : ℚ) < e.toRat ∧ e.toRat < p.policy.bound := by
  obtain ⟨d, -, hkeeps, rfl⟩ := h.origin e he
  rwa [Decimal.toRat_reduced]

theorem numbers (h : p.Holds ds) (x : ℚ) :
    (∃ e ∈ p.entries, e.toRat = x) ↔ ∃ d ∈ ds, p.policy.Keeps d ∧ d.toRat = x := by
  constructor
  · rintro ⟨e, he, rfl⟩
    obtain ⟨d, hd, hkeeps, rfl⟩ := h.origin e he
    exact ⟨d, hd, hkeeps, (Decimal.toRat_reduced d).symm⟩
  · rintro ⟨d, hd, hkeeps, rfl⟩
    exact h.held d hd hkeeps

/-- Different entries are different integers at the place of the last digit. -/
theorem nodup_signedAt (h : p.Holds ds) :
    (p.entries.map fun e ↦ e.signedAt (-p.policy.maxScale)).Nodup := by
  refine List.pairwise_map.2 (h.distinct.imp_of_mem fun ha hb hne heq ↦ hne ?_)
  exact Decimal.sameNumber_of_signedAt (h.within ha).1 (h.within hb).1 heq

theorem size_le (h : p.Holds ds) :
    p.size ≤ 2 * p.policy.bound * 10 ^ p.policy.maxScale - 1 := by
  have hsub : (p.entries.map fun e ↦ e.signedAt (-p.policy.maxScale)).toFinset ⊆
      Finset.Ioo (-(p.policy.bound * 10 ^ p.policy.maxScale : ℤ))
        (p.policy.bound * 10 ^ p.policy.maxScale : ℤ) := by
    intro n hn
    obtain ⟨e, he, rfl⟩ := List.mem_map.1 (List.mem_toFinset.1 hn)
    obtain ⟨hscale, hlower, hupper⟩ := h.within he
    exact Finset.mem_Ioo.2 (Decimal.signedAt_between hscale hlower hupper)
  have hcard := Finset.card_le_card hsub
  rw [List.toFinset_card_of_nodup h.nodup_signedAt, List.length_map, Int.card_Ioo] at hcard
  have hcast : ((p.policy.bound * 10 ^ p.policy.maxScale : ℕ) : ℤ)
      = (p.policy.bound : ℤ) * 10 ^ p.policy.maxScale := by push_cast; rfl
  rw [← hcast] at hcard
  rw [size, mul_assoc]
  omega

end Holds

/-- **What a pool remembers.** After any requests a pool holds the numbers that it was asked for
since it was last cleared and that are to be kept, each once and in reduced form, and its answers
are the numbers that it is asked for. -/
theorem remembers_of_run (policy : PoolPolicy) (requests : List Request) :
    Remembers policy ((new policy).afterAll requests) (asked requests) := by
  have hpolicy : ((new policy).afterAll requests).policy = policy := policy_afterAll _ _
  have h := holds_of_run policy requests
  refine ⟨hpolicy, fun d ↦ exists_answer _, h.distinct, fun e ↦ h.isReduced, fun e he ↦ ?_,
    fun e he ↦ ?_, fun x ↦ ?_, ?_⟩
  · rw [← hpolicy]
    exact (h.within he).2
  · rw [← hpolicy]
    exact (h.within he).1
  · rw [h.numbers x, hpolicy]
  · have hsize := h.size_le
    rwa [hpolicy] at hsize

end KeepingPool

end ChainedDecimal
