import ChainedDecimal.Bracket.Chain
import ChainedDecimal.Proofs.Outcome

/-!
# The moves of a bracketed chain

A call that succeeds on the exposed scope does one of four things, and `Move` lists them, each with
the conditions under which it happens and the chain that it leads to. Whatever a call preserves is
proved from this list by one case for each of the four.
-/

namespace ChainedDecimal

namespace Bracket

namespace Chain

/-- What a call that succeeds makes of a chain. -/
inductive Move (c : Chain) : Call → Chain → Prop where
  /-- The operand is usable, there is a value, and the operator can be carried out. -/
  | binary {op : BinaryOp} {operand scale : Argument} {x v w : Decimal}
      (operand_ok : operand.toDecimal = .ok x) (value_eq : c.exposed.value = some v)
      (apply_ok : op.apply v x scale = .ok w) :
      Move c (.binary op operand scale)
        ((c.withValue w).recording fun t ↦ t.binary op (.decimal x) scale)
  /-- There is a value, and the operator can be carried out. -/
  | unary {op : UnaryOp} {scale : Argument} {v w : Decimal}
      (value_eq : c.exposed.value = some v) (apply_ok : op.apply v scale = .ok w) :
      Move c (.unary op scale)
        ((c.withValue w).recording fun t ↦ t.unary op scale c.exposed.start)
  /-- The scale and the first value are usable, where both may be absent. -/
  | openGroup {op : Operator} {operand scale : Argument} {s : Option Int} {v : Option Decimal}
      (scale_ok : openingScale op scale = .ok s) (operand_ok : operand.toDecimal? = .ok v) :
      Move c (.openGroup op operand scale) (c.opened op s v)
  /-- There is an enclosing scope, and the group can be folded into it. -/
  | close {w : Waiting} {rest : List Waiting} {v : Decimal} (enclosing_eq : c.enclosing = w :: rest)
      (fold_ok : foldGroup w.pending w.scale w.scope.value c.exposed.value = .ok v) :
      Move c .close (c.closedInto w rest v)

variable {c c' : Chain}

theorem binary_eq_ok_iff {op : BinaryOp} {operand scale : Argument} :
    c.binary op operand scale = .ok c' ↔ Move c (.binary op operand scale) c' := by
  constructor
  · intro h
    obtain ⟨x, hx, h⟩ := Fault.bind_eq_ok.1 h
    obtain ⟨v, hv, h⟩ := Fault.bind_eq_ok.1 h
    obtain ⟨w, hw, h⟩ := Fault.bind_eq_ok.1 h
    cases h
    exact .binary hx (Fault.require_eq_ok.1 hv) hw
  · rintro ⟨hx, hv, hw⟩
    exact Fault.bind_eq_ok.2 ⟨_, hx, Fault.bind_eq_ok.2
      ⟨_, Fault.require_eq_ok.2 hv, Fault.bind_eq_ok.2 ⟨_, hw, rfl⟩⟩⟩

theorem unary_eq_ok_iff {op : UnaryOp} {scale : Argument} :
    c.unary op scale = .ok c' ↔ Move c (.unary op scale) c' := by
  constructor
  · intro h
    obtain ⟨v, hv, h⟩ := Fault.bind_eq_ok.1 h
    obtain ⟨w, hw, h⟩ := Fault.bind_eq_ok.1 h
    cases h
    exact .unary (Fault.require_eq_ok.1 hv) hw
  · rintro (_ | ⟨hv, hw⟩)
    exact Fault.bind_eq_ok.2 ⟨_, Fault.require_eq_ok.2 hv, Fault.bind_eq_ok.2 ⟨_, hw, rfl⟩⟩

theorem openGroup_eq_ok_iff {op : Operator} {operand scale : Argument} :
    c.openGroup op operand scale = .ok c' ↔ Move c (.openGroup op operand scale) c' := by
  constructor
  · intro h
    obtain ⟨s, hs, h⟩ := Fault.bind_eq_ok.1 h
    obtain ⟨v, hv, h⟩ := Fault.bind_eq_ok.1 h
    cases h
    exact .openGroup hs hv
  · rintro (_ | _ | ⟨hs, hv⟩)
    exact Fault.bind_eq_ok.2 ⟨_, hs, Fault.bind_eq_ok.2 ⟨_, hv, rfl⟩⟩

theorem close_eq_ok_iff : c.close = .ok c' ↔ Move c .close c' := by
  constructor
  · intro h
    unfold close at h
    split at h
    · cases h
    · rename_i w rest henc
      obtain ⟨v, hv, rfl⟩ := Fault.map_eq_ok.1 h
      exact .close henc hv
  · rintro (_ | _ | _ | ⟨henc, hv⟩)
    rw [close, henc]
    exact Fault.map_eq_ok.2 ⟨_, hv, rfl⟩

/-- A call succeeds on the exposed scope exactly if it is a move. -/
theorem act_eq_ok_iff {call : Call} : c.act call = .ok c' ↔ Move c call c' := by
  cases call with
  | binary op operand scale => exact binary_eq_ok_iff
  | unary op scale => exact unary_eq_ok_iff
  | openGroup op operand scale => exact openGroup_eq_ok_iff
  | close => exact close_eq_ok_iff

@[simp] theorem place_exposed (c : Chain) : c.place c.exposed.id = .exposed := by
  simp [place]

theorem place_eq_exposed_iff {id : Nat} : c.place id = .exposed ↔ c.exposed.id = id := by
  unfold place
  split
  · simp [*]
  · split <;> simp [*]

/-- Addressed to the exposed scope, a call is carried out there. -/
@[simp] theorem call_exposed (c : Chain) (call : Call) : c.call c.exposed.id call = c.act call := by
  simp [Chain.call]

/-- Only the exposed scope can carry out a call. -/
theorem call_eq_ok_iff {id : Nat} {call : Call} :
    c.call id call = .ok c' ↔ c.exposed.id = id ∧ Move c call c' := by
  rw [← act_eq_ok_iff, ← place_eq_exposed_iff]
  unfold Chain.call
  cases c.place id <;> simp

/-- A result is read from the root, after every parenthesis was closed again. -/
theorem result_eq_ok_iff {id : Nat} {v : Decimal} :
    c.result id = .ok v ↔
      c.exposed.id = id ∧ c.enclosing = [] ∧ c.exposed.value = some v := by
  rw [← place_eq_exposed_iff, ← Fault.require_eq_ok (f := .chainWithoutValue)]
  unfold result
  cases c.place id <;> cases c.enclosing <;> simp

end Chain

end Bracket

end ChainedDecimal
