import ChainedDecimal.Proofs.Bracket.Views
import ChainedDecimal.Proofs.Malformed

/-!
# When a bracketed chain is malformed

A call on a scope that is closed or covered always fails as malformed, before anything else is
looked at. On the exposed scope only closing can fail that way: if there is no enclosing scope, or
the operator that waits there takes a scale and has none.
-/

namespace ChainedDecimal

namespace Bracket

/-- Folding a group fails as malformed exactly if a scale is missing. -/
theorem isMalformed_foldGroup_iff {op : Operator} {scale : Option Int}
    {outer inner : Option Decimal} :
    IsMalformed (foldGroup op scale outer inner) ↔ op.needsScale = true ∧ scale = none := by
  by_cases hmissing : op.needsScale = true ∧ scale = none
  · obtain ⟨hop, rfl⟩ := hmissing
    simp [foldGroup, hop, Fault.kind]
  · have hif : (op.needsScale && scale.isNone) = false := by
      rw [Bool.eq_false_iff]
      exact fun hboth ↦ hmissing (by simpa using hboth)
    refine iff_of_false ?_ hmissing
    unfold foldGroup
    rw [hif, if_neg Bool.false_ne_true]
    -- With its scale an operator can still fail, but then over its operands.
    cases inner with
    | none => simp [Fault.kind]
    | some v =>
      cases op with
      | plain => exact not_isMalformed_ok v
      | unary op => exact op.not_isMalformed_apply v _
      | binary op => exact op.not_isMalformed_apply _ v _

namespace Chain

variable {c : Chain} {id : Nat} {call : Call}

theorem not_isMalformed_binary (c : Chain) (op : BinaryOp) (operand scale : Argument) :
    ¬IsMalformed (c.binary op operand scale) := by
  refine not_isMalformed_bind operand.not_isMalformed_toDecimal fun x ↦ ?_
  refine not_isMalformed_bind (not_isMalformed_require (by simp [Fault.kind])) fun v ↦ ?_
  exact not_isMalformed_bind (op.not_isMalformed_apply v x scale) fun w ↦ not_isMalformed_ok _

theorem not_isMalformed_unary (c : Chain) (op : UnaryOp) (scale : Argument) :
    ¬IsMalformed (c.unary op scale) := by
  refine not_isMalformed_bind (not_isMalformed_require (by simp [Fault.kind])) fun v ↦ ?_
  exact not_isMalformed_bind (op.not_isMalformed_apply v scale) fun w ↦ not_isMalformed_ok _

theorem not_isMalformed_openGroup (c : Chain) (op : Operator) (operand scale : Argument) :
    ¬IsMalformed (c.openGroup op operand scale) := by
  have hscale : ¬IsMalformed (openingScale op scale) :=
    not_isMalformed_ite scale.not_isMalformed_toScale? (not_isMalformed_ok _)
  refine not_isMalformed_bind hscale fun s ↦ ?_
  exact not_isMalformed_bind operand.not_isMalformed_toDecimal? fun v ↦ not_isMalformed_ok _

theorem isMalformed_close_iff :
    IsMalformed c.close ↔
      ∀ w ∈ c.enclosing.head?, w.pending.needsScale = true ∧ w.scale = none := by
  rw [close]
  cases c.enclosing with
  | nil => simp [Fault.kind]
  | cons w rest => simp [isMalformed_foldGroup_iff]

/-- On the exposed scope only closing can be malformed. -/
theorem isMalformed_act_iff :
    IsMalformed (c.act call) ↔ call = .close ∧
      ∀ w ∈ c.enclosing.head?, w.pending.needsScale = true ∧ w.scale = none := by
  cases call with
  | binary op operand scale =>
    exact iff_of_false (c.not_isMalformed_binary op operand scale) (by simp)
  | unary op scale => exact iff_of_false (c.not_isMalformed_unary op scale) (by simp)
  | openGroup op operand scale =>
    exact iff_of_false (c.not_isMalformed_openGroup op operand scale) (by simp)
  | close =>
    rw [act, isMalformed_close_iff]
    exact iff_and_self.2 fun _ ↦ rfl

/-- A scope that is not exposed carries out nothing. -/
theorem isMalformed_call_of_not_exposed (hid : c.exposed.id ≠ id) :
    IsMalformed (c.call id call) := by
  unfold Chain.call
  cases hp : c.place id with
  | exposed => exact absurd (place_eq_exposed_iff.1 hp) hid
  | covered =>
    rw [isMalformed_error, coveredFault]
    split
    · rfl
    · rfl
  | closed => exact isMalformed_error.2 rfl

theorem isMalformed_result_iff :
    IsMalformed (c.result id) ↔ c.exposed.id ≠ id ∨ c.enclosing ≠ [] := by
  by_cases hid : c.exposed.id = id
  · rw [result, place_eq_exposed_iff.2 hid]
    cases c.enclosing with
    | nil =>
      have hvalue : ¬IsMalformed (Fault.chainWithoutValue.require c.exposed.value) :=
        not_isMalformed_require (by simp [Fault.kind])
      simp [hid, hvalue]
    | cons w rest => simp [Fault.kind]
  · refine iff_of_true ?_ (Or.inl hid)
    have hp := mt place_eq_exposed_iff.1 hid
    rw [result]
    cases hplace : c.place id with
    | exposed => exact absurd hplace hp
    | covered => exact isMalformed_error.2 rfl
    | closed => exact isMalformed_error.2 rfl

end Chain

end Bracket

end ChainedDecimal
