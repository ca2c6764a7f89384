import ChainedDecimal.Proofs.Pool.Contents

/-!
# What a pool held before makes no difference to its answers

An answer of a pool that keeps entries is found among the entries or is computed afresh. Which of
the two it was cannot be seen from it: the answer is the plain one, whatever was asked for before.

The exception are the zeros. The reduced form of a zero keeps its sign, and all zeros are one
number; so the first zero that was asked for answers for all of them, until the pool is cleared.
-/

namespace ChainedDecimal

open Decimal (SameNumber)

/-- The answer of a pool that was asked for some decimals since it was last cleared. -/
def PoolPolicy.answer (p : PoolPolicy) (ds : List Decimal) (d : Decimal) : Decimal :=
  if d.isZero then ⟨((ds.find? Decimal.isZero).getD d).negative, 0, 0⟩ else p.plainAnswer d

namespace PoolPolicy

variable (p : PoolPolicy) {ds : List Decimal} {d e : Decimal}

theorem answer_of_isZero (h : d.isZero = true) :
    p.answer ds d = ((ds.find? Decimal.isZero).getD d).reduced := by
  have hzero : ((ds.find? Decimal.isZero).getD d).isZero = true := by
    cases hfind : ds.find? Decimal.isZero with
    | none => exact h
    | some z => exact List.find?_some hfind
  rw [answer, if_pos h, Decimal.reduced_of_isZero hzero]

theorem answer_of_not_isZero (h : d.isZero = false) : p.answer ds d = p.plainAnswer d := by
  rw [answer, if_neg (by simp [h])]

/-- Of a number other than zero there is only one answer. -/
theorem plainAnswer_eq_of_sameNumber (hd : d.isZero = false) (h : SameNumber d e) :
    p.plainAnswer d = p.plainAnswer e := by
  rw [plainAnswer, plainAnswer, Decimal.reduced_eq_of_sameNumber hd h, h]

end PoolPolicy

namespace KeepingPool

variable {p : KeepingPool} {ds : List Decimal} {d e : Decimal}

/-! ## One answer -/

/-- The entry of a number is the answer to it. -/
theorem Holds.eq_answer_of_mem (h : p.Holds ds) (he : e ∈ p.entries) (hsame : SameNumber e d) :
    e = p.policy.answer ds d := by
  cases hzero : d.isZero with
  | true =>
    obtain ⟨z, hz, hze⟩ := Option.map_eq_some_iff.1 (h.first_zero e he (hsame.isZero_eq ▸ hzero))
    rw [p.policy.answer_of_isZero hzero, hz, Option.getD_some, hze]
  | false =>
    obtain ⟨x, -, hkeeps, rfl⟩ := h.origin e he
    have hxd : SameNumber x d := (Decimal.toRat_reduced x).symm.trans hsame
    have hx : x.isZero = false := hxd.isZero_eq ▸ hzero
    rw [p.policy.answer_of_not_isZero hzero, ← p.policy.plainAnswer_eq_of_sameNumber hx hxd,
      p.policy.plainAnswer_of_keeps hkeeps]

/-- A number that has no entry is answered as if nothing had been asked for. -/
theorem Holds.reduced_eq_answer (h : p.Holds ds) (hkeeps : p.policy.Keeps d)
    (hnew : ∀ e ∈ p.entries, ¬SameNumber e d) : d.reduced = p.policy.answer ds d := by
  cases hzero : d.isZero with
  | true => rw [p.policy.answer_of_isZero hzero, h.find?_isZero_of_new hzero hnew, Option.getD_none]
  | false => rw [p.policy.answer_of_not_isZero hzero, p.policy.plainAnswer_of_keeps hkeeps]

theorem Holds.place_eq_answer (h : p.Holds ds) (d : Decimal) :
    (p.place d.reduced).1 = p.policy.answer ds d := by
  by_cases hkeeps : p.policy.Keeps d
  · rw [p.place_of_keeps hkeeps]
    rcases p.keep_cases d.reduced with ⟨e, he, hsame, heq⟩ | ⟨hnew, heq⟩
    · rw [heq]
      exact h.eq_answer_of_mem he (hsame.trans (Decimal.toRat_reduced d))
    · rw [heq]
      exact h.reduced_eq_answer hkeeps fun e he hsame ↦
        hnew e he (hsame.trans (Decimal.toRat_reduced d).symm)
  · have hzero : d.isZero = false := by
      rw [Bool.eq_false_iff]
      exact fun hzero ↦ hkeeps (p.policy.keeps_of_isZero hzero)
    rw [p.place_of_not_keeps hkeeps, p.policy.answer_of_not_isZero hzero]

/-! ## Two answers -/

/-- As long as a pool is not cleared, what it was asked for before comes first. -/
theorem asked_append_of_not_clear (before : List Request) {between : List Request}
    (h : .clear ∉ between) : asked before <+: asked (before ++ between) := by
  induction between using List.reverseRecOn with
  | nil => rw [List.append_nil]
  | append_singleton between request ih =>
    obtain ⟨hbetween, hrequest⟩ : .clear ∉ between ∧ request ≠ .clear := by
      simpa [eq_comm] using h
    rw [← List.append_assoc]
    cases request with
    | get d hd =>
      rw [asked_get]
      exact (ih hbetween).trans (List.prefix_append _ _)
    | clear => exact absurd rfl hrequest

/-- A zero that was asked for answers for all later ones. -/
theorem find?_isZero_of_prefix {more : List Decimal} (hd : d.isZero = true)
    (h : ds ++ [d] <+: more) :
    more.find? Decimal.isZero = some ((ds.find? Decimal.isZero).getD d) := by
  obtain ⟨rest, rfl⟩ := h
  rw [List.find?_append, List.find?_append, List.find?_cons_of_pos hd]
  cases ds.find? Decimal.isZero <;> rfl

/-- Decimals of one number have one answer, unless they are zeros and another one came first. -/
theorem answer_eq_of_sameNumber (policy : PoolPolicy) {d d' : Decimal} {more : List Decimal}
    (hsame : SameNumber d d') (hzeros : d.isZero = true → ds ++ [d] <+: more) :
    policy.answer ds d = policy.answer more d' := by
  cases hzero : d.isZero with
  | true =>
    have hzero' : d'.isZero = true := hsame.isZero_eq ▸ hzero
    rw [policy.answer_of_isZero hzero, policy.answer_of_isZero hzero',
      find?_isZero_of_prefix hzero (hzeros hzero), Option.getD_some]
  | false =>
    have hzero' : d'.isZero = false := hsame.isZero_eq ▸ hzero
    rw [policy.answer_of_not_isZero hzero, policy.answer_of_not_isZero hzero',
      policy.plainAnswer_eq_of_sameNumber hzero hsame]

/-- What a pool answers after some requests is told by what it was asked for. -/
theorem get_afterAll (policy : PoolPolicy) (requests : List Request) (h : d.Fits) :
    ((new policy).afterAll requests).get d =
      .ok (policy.answer (asked requests) d, (new policy).afterAll (requests ++ [.get d h])) := by
  have hafter : (new policy).afterAll (requests ++ [.get d h]) =
      (((new policy).afterAll requests).place d.reduced).2 := by
    rw [afterAll_append]
    exact after_get h
  have hanswer : (((new policy).afterAll requests).place d.reduced).1 =
      policy.answer (asked requests) d := by
    rw [(holds_of_run policy requests).place_eq_answer d, policy_afterAll, new]
  rw [get_of_fits _ h, hafter, ← hanswer]

/-- **What was asked for before cannot be seen, apart from the sign of a zero.** An answer is the
plain one, or the first zero that was asked for since the pool was last cleared. So two decimals of
one number are always answered alike; and if they are zeros, then as long as the pool is not cleared
in between. -/
theorem get_of_run (policy : PoolPolicy) (before between : List Request) {d d' : Decimal}
    (h : d.Fits) (h' : d'.Fits) :
    ∃ e q e' q', ((new policy).afterAll before).get d = .ok (e, q) ∧
      (q.afterAll between).get d' = .ok (e', q') ∧
      e = policy.answer (asked before) d ∧
      e' = policy.answer (asked (before ++ .get d h :: between)) d' ∧
      (SameNumber d d' → (d.isZero = true → .clear ∉ between) → e = e') := by
  have hlater := get_afterAll policy (before ++ [.get d h] ++ between) h'
  rw [afterAll_append] at hlater
  rw [List.append_cons]
  refine ⟨_, _, _, _, get_afterAll policy before h, hlater, rfl, rfl, ?_⟩
  intro hsame hclear
  refine answer_eq_of_sameNumber policy hsame fun hzero ↦ ?_
  rw [← asked_get before h]
  exact asked_append_of_not_clear _ (hclear hzero)

/-- The first zero that was asked for is negative, and so are the answers to zeros after it. -/
theorem get_negativeZero :
    Decimal.Fits ⟨false, 0, 0⟩ ∧ Decimal.Fits ⟨false, 0, 3⟩ ∧
      ∃ (hfirst : Decimal.Fits ⟨true, 0, -2⟩) (hother : Decimal.Fits ⟨false, 150, -2⟩),
      ∃ q q', ((new .standard).afterAll [.get _ hfirst]).get ⟨false, 0, 0⟩ = .ok (⟨true, 0, 0⟩, q) ∧
        (q.afterAll [.get _ hother]).get ⟨false, 0, 3⟩ = .ok (⟨true, 0, 0⟩, q') := by
  have hfirst : Decimal.Fits ⟨true, 0, -2⟩ := by decide
  have hother : Decimal.Fits ⟨false, 150, -2⟩ := by decide
  have h : Decimal.Fits ⟨false, 0, 0⟩ := by decide
  have h' : Decimal.Fits ⟨false, 0, 3⟩ := by decide
  obtain ⟨e, q, e', q', hget, hget', he, -, hsame⟩ :=
    get_of_run .standard [.get _ hfirst] [.get _ hother] h h'
  have he' : e = e' := hsame (by simp [SameNumber, Decimal.toRat]) (by simp)
  have hzero : e = ⟨true, 0, 0⟩ := he
  subst he' hzero
  exact ⟨h, h', hfirst, hother, q, q', hget, hget'⟩

end KeepingPool

end ChainedDecimal
