import ChainedDecimal.Operator.Apply
import ChainedDecimal.Pool

/-!
# Malformed calculations

Among all faults those of the kind `invalidStructure` say that the parentheses of a calculation are
malformed. No operator, no argument and no pool ever says so, whatever is handed over; what remains
are the few places where a chain looks at its own parentheses.
-/

namespace ChainedDecimal

/-- The outcome is a fault that says that parentheses are malformed. -/
def IsMalformed {α : Type} (x : Except Fault α) : Prop :=
  ∃ f, x = .error f ∧ f.kind = .invalidStructure

section

variable {α β : Type} {x : Except Fault α}

@[simp] theorem not_isMalformed_ok (a : α) : ¬IsMalformed (.ok a : Except Fault α) := by
  rintro ⟨f, hf, -⟩
  cases hf

@[simp] theorem isMalformed_error {f : Fault} :
    IsMalformed (.error f : Except Fault α) ↔ f.kind = .invalidStructure := by
  constructor
  · rintro ⟨g, hg, hkind⟩
    cases hg
    exact hkind
  · intro hkind
    exact ⟨f, rfl, hkind⟩

@[simp] theorem isMalformed_map {g : α → β} : IsMalformed (x.map g) ↔ IsMalformed x := by
  cases x with
  | error f => exact isMalformed_error.trans isMalformed_error.symm
  | ok a => exact iff_of_false (not_isMalformed_ok _) (not_isMalformed_ok _)

/-- A sequence of steps is not malformed if none of its steps is. -/
theorem not_isMalformed_bind {k : α → Except Fault β} (hx : ¬IsMalformed x)
    (hk : ∀ a, ¬IsMalformed (k a)) : ¬IsMalformed (x >>= k) := by
  cases x with
  | error f => exact fun h ↦ hx (isMalformed_error.2 (isMalformed_error.1 h))
  | ok a => exact hk a

theorem not_isMalformed_require {f : Fault} {a : Option α} (hf : f.kind ≠ .invalidStructure) :
    ¬IsMalformed (f.require a) := by
  cases a with
  | none => exact fun h ↦ hf (isMalformed_error.1 h)
  | some a => exact not_isMalformed_ok a

theorem not_isMalformed_ite {p : Prop} [Decidable p] {y : Except Fault α} (hx : ¬IsMalformed x)
    (hy : ¬IsMalformed y) : ¬IsMalformed (if p then x else y) := by
  split
  · exact hx
  · exact hy

end

/-! ## Arithmetic -/

namespace Decimal

theorem not_isMalformed_settle (d : Decimal) : ¬IsMalformed d.settle := by
  unfold settle fitPrecision
  have hok : ∀ x : Decimal, ¬IsMalformed (.ok x : Except Fault Decimal) := not_isMalformed_ok
  refine not_isMalformed_ite (not_isMalformed_ite (hok _) (by simp [Fault.kind])) ?_
  refine not_isMalformed_ite (hok _) (not_isMalformed_ite ?_ (hok _))
  exact not_isMalformed_ite (by simp [Fault.kind]) (hok _)

theorem not_isMalformed_placed (negative : Bool) (coeff : Nat) (exp : Int) :
    ¬IsMalformed (placed negative coeff exp) :=
  not_isMalformed_ite (by simp [Fault.kind]) (not_isMalformed_settle _)

theorem not_isMalformed_divide (a b : Decimal) (scale : Int) :
    ¬IsMalformed (a.divide b scale) := by
  unfold divide
  exact not_isMalformed_ite (by simp [Fault.kind]) (not_isMalformed_placed _ _ _)

theorem not_isMalformed_quantize (d : Decimal) (e : Int) : ¬IsMalformed (d.quantize e) := by
  unfold quantize
  refine not_isMalformed_ite (by simp [Fault.kind]) ?_
  refine not_isMalformed_ite (not_isMalformed_settle _) ?_
  refine not_isMalformed_ite (by simp [Fault.kind]) ?_
  exact not_isMalformed_ite (by simp [Fault.kind]) (not_isMalformed_settle _)

theorem not_isMalformed_round (d : Decimal) (scale : Int) : ¬IsMalformed (d.round scale) := by
  have hunit := not_isMalformed_placed false 1 (-scale)
  unfold round
  split
  · rename_i f hf
    rwa [hf] at hunit
  · exact not_isMalformed_quantize _ _

end Decimal

/-! ## Arguments and operators -/

namespace Argument

theorem not_isMalformed_toDecimal (a : Argument) : ¬IsMalformed a.toDecimal := by
  cases a with
  | object name rank => cases rank <;> simp [toDecimal, Fault.kind]
  | _ => simp [toDecimal, Fault.kind]

theorem toScale?_of_ne_absent {a : Argument} (h : a ≠ .absent) :
    a.toScale? = a.toScale.map some := by
  cases a with
  | absent => exact absurd rfl h
  | _ => rfl

theorem not_isMalformed_toDecimal? (a : Argument) : ¬IsMalformed a.toDecimal? := by
  by_cases ha : a = .absent
  · rw [ha]
    exact not_isMalformed_ok _
  · rw [toDecimal?_of_ne_absent ha, isMalformed_map]
    exact a.not_isMalformed_toDecimal

theorem not_isMalformed_toScale (a : Argument) : ¬IsMalformed a.toScale := by
  cases a <;> simp [toScale, Fault.kind]

theorem not_isMalformed_toScale? (a : Argument) : ¬IsMalformed a.toScale? := by
  by_cases ha : a = .absent
  · rw [ha]
    exact not_isMalformed_ok _
  · rw [toScale?_of_ne_absent ha, isMalformed_map]
    exact a.not_isMalformed_toScale

end Argument

theorem BinaryOp.not_isMalformed_apply (op : BinaryOp) (left right : Decimal) (scale : Argument) :
    ¬IsMalformed (op.apply left right scale) := by
  cases op with
  | add => exact Decimal.not_isMalformed_settle _
  | subtract => exact Decimal.not_isMalformed_settle _
  | multiply => exact Decimal.not_isMalformed_settle _
  | divide =>
    exact not_isMalformed_bind scale.not_isMalformed_toScale fun n ↦
      Decimal.not_isMalformed_divide left right n

theorem UnaryOp.not_isMalformed_apply (op : UnaryOp) (value : Decimal) (scale : Argument) :
    ¬IsMalformed (op.apply value scale) := by
  cases op with
  | negate => exact Decimal.not_isMalformed_settle _
  | absolute => exact Decimal.not_isMalformed_settle _
  | round =>
    exact not_isMalformed_bind scale.not_isMalformed_toScale fun n ↦
      Decimal.not_isMalformed_round value n

/-! ## Pools -/

theorem Pool.not_isMalformed_get (p : Pool) (d : Decimal) : ¬IsMalformed (p.get d) := by
  cases p with
  | keeping p =>
    simp only [Pool.get, KeepingPool.get, Decimal.normalize, isMalformed_map]
    exact Decimal.not_isMalformed_settle d
  | _ => exact not_isMalformed_ok _

end ChainedDecimal
