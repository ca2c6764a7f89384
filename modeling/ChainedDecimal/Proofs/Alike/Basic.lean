import ChainedDecimal.Proofs.Outcome
import ChainedDecimal.Proofs.Operator.Exact
import Mathlib.Data.List.Forall2

/-!
# Calculations side by side

Two calculations of the same shape are compared step by step. How much they have in common is a
`Likeness`: which decimals may stand in each other's place, and which faults. Whatever is compared
later, chains, groups, callables and sessions, is alike if it has the same shape and alike decimals
in the places where decimals stand.

## Two likenesses

Under `Likeness.same` nothing may differ but what is no part of the calculation, and there is no
condition on the operations. Under `Likeness.numeric` decimals may represent the same number in
different ways, and faults need only be of one kind. Then operations at the limits have to be left
out, since it is the representation that meets a limit.
-/

namespace ChainedDecimal

/-! ## Outcomes -/

/-- Two outcomes are both faults, or both answers, that are related. -/
inductive Fault.Rel {α β : Type} (F : Fault → Fault → Prop) (R : α → β → Prop) :
    Except Fault α → Except Fault β → Prop where
  | error {f g : Fault} (h : F f g) : Rel F R (.error f) (.error g)
  | ok {a : α} {b : β} (h : R a b) : Rel F R (.ok a) (.ok b)

namespace Fault.Rel

variable {α β γ δ : Type} {F : Fault → Fault → Prop} {R : α → β → Prop} {S : γ → δ → Prop}
  {x : Except Fault α} {y : Except Fault β}

theorem bind {k : α → Except Fault γ} {l : β → Except Fault δ} (h : Rel F R x y)
    (hk : ∀ a b, x = .ok a → y = .ok b → R a b → Rel F S (k a) (l b)) :
    Rel F S (x >>= k) (y >>= l) := by
  rcases h with hf | hr
  · exact .error hf
  · exact hk _ _ rfl rfl hr

/-- Two sequences that begin with the same step. -/
theorem bind_self {k : α → Except Fault γ} {l : α → Except Fault δ} (hF : ∀ f, F f f)
    (h : ∀ a, x = .ok a → Rel F S (k a) (l a)) : Rel F S (x >>= k) (x >>= l) := by
  rcases x with f | a
  · exact .error (hF f)
  · exact h a rfl

theorem map {g : α → γ} {g' : β → δ} (h : Rel F R x y) (hg : ∀ a b, R a b → S (g a) (g' b)) :
    Rel F S (x.map g) (y.map g') := by
  rcases h with hf | hr
  · exact .error hf
  · exact .ok (hg _ _ hr)

theorem require {a : Option α} {b : Option β} (h : Option.Rel R a b) {f g : Fault} (hf : F f g) :
    Rel F R (f.require a) (g.require b) := by
  rcases h with h | _
  · exact .ok h
  · exact .error hf

theorem refl {F : Fault → Fault → Prop} {R : α → α → Prop} (hF : ∀ f, F f f) (hR : ∀ a, R a a)
    (x : Except Fault α) : Rel F R x x := by
  rcases x with f | a
  · exact .error (hF f)
  · exact .ok (hR a)

end Fault.Rel

theorem optionRel_refl {α : Type} {R : α → α → Prop} (hR : ∀ a, R a a) (a : Option α) :
    Option.Rel R a a := by
  rcases a with _ | a
  · exact .none
  · exact .some (hR a)

theorem optionRel_eq {α : Type} {R : α → α → Prop} {a b : Option α} (h : Option.Rel R a b)
    (hR : ∀ a b, R a b → a = b) : a = b := by
  rcases h with h | _
  · rw [hR _ _ h]
  · rfl

theorem optionRel_getD {α β : Type} {R : α → β → Prop} {a : Option α} {b : Option β} {d : α} {e : β}
    (h : Option.Rel R a b) (hd : R d e) : R (a.getD d) (b.getD e) := by
  rcases h with h | _
  · exact h
  · exact hd

/-! ## Operations -/

/-- An operation that a calculation carries out. -/
inductive Operation where
  | binary (op : BinaryOp) (left right : Decimal) (scale : Argument)
  | unary (op : UnaryOp) (value : Decimal) (scale : Argument)
deriving DecidableEq

namespace Operation

/-- What the operation comes to without limits. -/
def exact : Operation → Except Fault Decimal
  | .binary op left right scale => op.exact left right scale
  | .unary op value scale => op.exact value scale

/-- The operation meets none of the limits of the decimals: what it comes to without them fits. -/
def Within (o : Operation) : Prop :=
  match o.exact with
  | .ok w => w.Fits
  | .error _ => True

instance (o : Operation) : Decidable o.Within := by
  unfold Within
  split <;> infer_instance

theorem Within.fits {o : Operation} (h : o.Within) {w : Decimal} (hw : o.exact = .ok w) :
    w.Fits := by
  rw [Within, hw] at h
  exact h

end Operation

/-! ## Likenesses -/

/-- How much two calculations have in common that run side by side. -/
structure Likeness where
  /-- Which decimals may stand in each other's place. -/
  number : Decimal → Decimal → Prop
  /-- Which faults may. -/
  fault : Fault → Fault → Prop
  /-- The operations that are promised to respect this. -/
  Covers : Operation → Prop
  number_refl : ∀ d, number d d
  fault_refl : ∀ f, fault f f
  /-- Decimals in each other's place represent the same number. -/
  sameNumber : ∀ {a b}, number a b → Decimal.SameNumber a b
  binary : ∀ {op a a' b b' scale}, number a a' → number b b' →
    Covers (.binary op a b scale) → Covers (.binary op a' b' scale) →
    Fault.Rel fault number (op.apply a b scale) (op.apply a' b' scale)
  unary : ∀ {op d d' scale}, number d d' →
    Covers (.unary op d scale) → Covers (.unary op d' scale) →
    Fault.Rel fault number (op.apply d scale) (op.apply d' scale)

open Decimal (SameNumber)

theorem BinaryOp.exact_of_sameNumber {op : BinaryOp} {a a' b b' : Decimal} (ha : SameNumber a a')
    (hb : SameNumber b b') (scale : Argument) :
    Fault.Rel (fun f g ↦ f.kind = g.kind) SameNumber (op.exact a b scale)
      (op.exact a' b' scale) := by
  match op with
  | .add =>
    refine .ok ?_
    rw [SameNumber, Decimal.toRat_exactSum, Decimal.toRat_exactSum, ha, hb]
  | .subtract =>
    refine .ok ?_
    rw [SameNumber, Decimal.toRat_exactSum, Decimal.toRat_exactSum, Decimal.toRat_flip,
      Decimal.toRat_flip, ha, hb]
  | .multiply =>
    refine .ok ?_
    rw [SameNumber, Decimal.toRat_exactProduct, Decimal.toRat_exactProduct, ha, hb]
  | .divide =>
    unfold exact
    rcases scale.toScale with f | s
    · exact .error rfl
    · show Fault.Rel _ _ (if b.isZero then _ else _) (if b'.isZero then _ else _)
      rw [← hb.isZero_eq]
      split
      · exact .error rfl
      · rename_i hzero
        rw [Decimal.exactQuotient_eq_of_sameNumber ha hb (by simpa using hzero)]
        exact .ok rfl

theorem UnaryOp.exact_of_sameNumber {op : UnaryOp} {d d' : Decimal} (h : SameNumber d d')
    (scale : Argument) :
    Fault.Rel (fun f g ↦ f.kind = g.kind) SameNumber (op.exact d scale) (op.exact d' scale) := by
  match op with
  | .negate =>
    refine .ok ?_
    rw [SameNumber, Decimal.toRat_opposite, Decimal.toRat_opposite, h]
  | .absolute =>
    refine .ok ?_
    rw [SameNumber, Decimal.toRat_positive, Decimal.toRat_positive, h]
  | .round =>
    unfold exact
    rcases scale.toScale with f | s
    · exact .error rfl
    · exact .ok (h.roundedAt _)

namespace Likeness

/-- Nothing may differ. -/
def same : Likeness where
  number := Eq
  fault := Eq
  Covers _ := True
  number_refl _ := rfl
  fault_refl _ := rfl
  sameNumber h := congrArg Decimal.toRat h
  binary ha hb _ _ := by
    subst ha hb
    exact Fault.Rel.refl (fun _ ↦ rfl) (fun _ ↦ rfl) _
  unary h _ _ := by
    subst h
    exact Fault.Rel.refl (fun _ ↦ rfl) (fun _ ↦ rfl) _

/-- Decimals represent the same number, faults are of the same kind, and no limit is met. -/
def numeric : Likeness where
  number := SameNumber
  fault f g := f.kind = g.kind
  Covers := Operation.Within
  number_refl _ := rfl
  fault_refl _ := rfl
  sameNumber h := h
  binary ha hb hw hw' := by
    rw [BinaryOp.apply_eq_exact fun _ ↦ hw.fits, BinaryOp.apply_eq_exact fun _ ↦ hw'.fits]
    exact BinaryOp.exact_of_sameNumber ha hb _
  unary h hw hw' := by
    rw [UnaryOp.apply_eq_exact fun _ ↦ hw.fits, UnaryOp.apply_eq_exact fun _ ↦ hw'.fits]
    exact UnaryOp.exact_of_sameNumber h _

variable (L : Likeness)

/-- The operands stand for alike decimals, or for none, or are refused alike. -/
def Operand (a b : Argument) : Prop :=
  Fault.Rel L.fault (Option.Rel L.number) a.toDecimal? b.toDecimal?

/-- Where nothing may differ in the decimals, nothing may differ in what is shown of them. -/
def Text (s t : String) : Prop := (∀ a b, L.number a b → a = b) → s = t

variable {L : Likeness}

theorem Operand.refl (a : Argument) : L.Operand a a :=
  Fault.Rel.refl L.fault_refl (optionRel_refl L.number_refl) _

theorem Operand.absent_iff {a b : Argument} (h : L.Operand a b) : a = .absent ↔ b = .absent := by
  have hnone : ∀ x : Argument, x = .absent ↔ x.toDecimal? = .ok none := fun x ↦
    ⟨fun hx ↦ by rw [hx]; rfl, Argument.eq_absent_of_toDecimal?⟩
  rw [hnone, hnone]
  rcases ha : a.toDecimal? with f | x <;> rcases hb : b.toDecimal? with g | y <;>
    rw [Operand, ha, hb] at h <;> rcases h with h | h
  · simp
  · rcases h with _ | _ <;> simp

theorem Operand.toDecimal {a b : Argument} (h : L.Operand a b) :
    Fault.Rel L.fault L.number a.toDecimal b.toDecimal := by
  by_cases ha : a = .absent
  · rw [ha, h.absent_iff.1 ha]
    exact .error (L.fault_refl _)
  · have hb : b ≠ .absent := fun hb ↦ ha (h.absent_iff.2 hb)
    rw [Operand, Argument.toDecimal?_of_ne_absent ha, Argument.toDecimal?_of_ne_absent hb] at h
    rcases hx : a.toDecimal with f | x <;> rcases hy : b.toDecimal with g | y <;>
      rw [hx, hy] at h <;> rcases h with h | h
    · exact .error h
    · rcases h with h | _
      exact .ok h

end Likeness

end ChainedDecimal
