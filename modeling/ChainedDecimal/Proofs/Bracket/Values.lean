import ChainedDecimal.Proofs.Bracket.Scopes
import ChainedDecimal.Proofs.Decimal.Fitting

/-!
# The values of a bracketed chain

A value enters a chain as the first value of a scope or as the outcome of an operator. Outcomes fit
within the limits. So whatever holds of all decimals that fit, and of the first values, holds of all
values that a chain ever has.
-/

namespace ChainedDecimal

namespace Bracket

/-- The operand that becomes a value as it is: the first value of a scope that is opened. -/
def Call.firsts : Call → List Argument
  | .openGroup _ operand _ => [operand]
  | _ => []

variable {P : Decimal → Prop}

theorem holds_of_foldGroup (hP : ∀ d : Decimal, d.Fits → P d) {op : Operator} {scale : Option Int}
    {outer inner : Option Decimal} {w : Decimal} (hinner : ∀ v, inner = some v → P v)
    (h : foldGroup op scale outer inner = .ok w) : P w := by
  obtain ⟨-, h⟩ := Fault.check_eq_ok.1 h
  match inner, op with
  | none, _ => cases h
  | some v, .plain =>
    cases h
    exact hinner _ rfl
  | some v, .unary op => exact hP w (UnaryOp.fits_of_apply h)
  | some v, .binary op => exact hP w (BinaryOp.fits_of_apply h)

namespace Chain

/-- The values of all scopes, open or closed, have a property. -/
def Values (P : Decimal → Prop) (c : Chain) : Prop :=
  ∀ s ∈ c.openScopes ++ c.closed, ∀ v, s.value = some v → P v

variable {c c' : Chain}

theorem values_begin {initial : Argument} {traced : Bool} (h : begin initial traced = .ok c)
    (hinitial : initial.Satisfies P) : c.Values P := by
  obtain ⟨value, hvalue, rfl⟩ := Fault.map_eq_ok.1 h
  intro s hs v hv
  have hs : s = ⟨0, value, 0⟩ := by simpa [openScopes] using hs
  subst hs hv
  exact hinitial.of_toDecimal? hvalue

namespace Values

theorem exposed (h : c.Values P) {v : Decimal} (hv : c.exposed.value = some v) : P v :=
  h c.exposed (by simp [openScopes]) v hv

/-- It is enough to look at the exposed scope if all others were there before. -/
theorem of_exposed (h : c.Values P) (hvalue : ∀ v, c'.exposed.value = some v → P v)
    (hold : ∀ s ∈ c'.enclosing.map Waiting.scope ++ c'.closed, s ∈ c.openScopes ++ c.closed) :
    c'.Values P := by
  intro s hs v hv
  rw [openScopes, List.cons_append, List.mem_cons] at hs
  rcases hs with rfl | hs
  · exact hvalue v hv
  · exact h s (hold s hs) v hv

theorem move (h : c.Values P) (hP : ∀ d : Decimal, d.Fits → P d) {call : Call}
    (hcall : ∀ x ∈ call.firsts, x.Satisfies P) (hm : Move c call c') : c'.Values P := by
  match hm with
  | .binary _ _ apply_ok =>
    refine h.of_exposed (fun v hv ↦ ?_) fun s hs ↦ List.mem_cons_of_mem _ hs
    cases hv
    exact hP _ (BinaryOp.fits_of_apply apply_ok)
  | .unary _ apply_ok =>
    refine h.of_exposed (fun v hv ↦ ?_) fun s hs ↦ List.mem_cons_of_mem _ hs
    cases hv
    exact hP _ (UnaryOp.fits_of_apply apply_ok)
  | .openGroup _ operand_ok =>
    refine h.of_exposed (fun v hv ↦ ?_) fun s hs ↦ hs
    cases hv
    exact (hcall _ (List.mem_singleton_self _)).of_toDecimal? operand_ok
  | .close enclosing_eq fold_ok =>
    refine h.of_exposed (fun v hv ↦ ?_) fun s hs ↦ ?_
    · cases hv
      exact holds_of_foldGroup hP (fun v hv ↦ h.exposed hv) fold_ok
    · simp only [closedInto, openScopes, enclosing_eq, List.map_cons, List.cons_append,
        List.mem_cons, List.mem_append, List.not_mem_nil, or_false] at hs ⊢
      rcases hs with hs | hs | rfl
      · exact Or.inr (Or.inr (Or.inl hs))
      · exact Or.inr (Or.inr (Or.inr hs))
      · exact Or.inl rfl

end Values

end Chain

/-! ## Values that fit -/

/-- The first value of a scope that is opened fits. -/
def Call.Fits : Call → Prop
  | .openGroup _ operand _ => operand.Fits
  | _ => True

instance : (c : Call) → Decidable c.Fits
  | .openGroup _ operand _ => inferInstanceAs (Decidable operand.Fits)
  | .binary _ _ _ | .unary _ _ | .close => isTrue trivial

theorem Call.Fits.satisfies {call : Call} (h : call.Fits) :
    ∀ x ∈ call.firsts, x.Satisfies Decimal.Fits := by
  cases call with
  | openGroup op operand scale => exact List.forall_mem_singleton.2 h
  | binary _ _ _ | unary _ _ | close => exact List.forall_mem_nil _

namespace Chain

/-- The values of all scopes fit. -/
def Fits (c : Chain) : Prop := ∀ s ∈ c.openScopes ++ c.closed, ∀ v, s.value = some v → v.Fits

variable {c c' : Chain}

/-- A result that is read fits. -/
theorem Fits.result (h : c.Fits) {id : Nat} {v : Decimal} (hv : c.result id = .ok v) : v.Fits :=
  Values.exposed h (result_eq_ok_iff.1 hv).2.2

end Chain

end Bracket

end ChainedDecimal
