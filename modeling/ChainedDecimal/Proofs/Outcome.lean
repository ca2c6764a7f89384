import ChainedDecimal.Fault

/-!
# Opening a sequence of steps

The operations of this library are sequences of steps, each of which may fail. These lemmas take
such a sequence apart: it succeeds exactly if the first step does and so do the others on what the
first one gave.
-/

namespace ChainedDecimal

namespace Fault

variable {α β : Type}

theorem bind_eq_ok {x : Except Fault α} {k : α → Except Fault β} {b : β} :
    x >>= k = .ok b ↔ ∃ a, x = .ok a ∧ k a = .ok b := by
  cases x with
  | error f =>
    constructor
    · intro h
      cases h
    · rintro ⟨a, ha, -⟩
      cases ha
  | ok a =>
    constructor
    · intro h
      exact ⟨a, rfl, h⟩
    · rintro ⟨a', ha, h⟩
      cases ha
      exact h

theorem map_eq_ok {x : Except Fault α} {g : α → β} {b : β} :
    x.map g = .ok b ↔ ∃ a, x = .ok a ∧ g a = b := by
  cases x with
  | error f => simp [Except.map]
  | ok a => simp [Except.map]

theorem require_eq_ok {f : Fault} {x : Option α} {a : α} :
    f.require x = .ok a ↔ x = some a := by
  cases x with
  | none => simp
  | some b => simp

/-- A check that stands before a step is passed by whatever succeeds. -/
theorem check_eq_ok {p : Prop} [Decidable p] {f : Fault} {x : Except Fault α} {a : α} :
    (if p then .error f else x) = .ok a ↔ ¬p ∧ x = .ok a := by
  by_cases hp : p
  · simp [hp]
  · simp [hp]

/-- A check with nothing behind it fails in one way. -/
theorem eq_of_check {p : Prop} [Decidable p] {f g : Fault} {a : α}
    (h : (if p then .error g else .ok a : Except Fault α) = .error f) : f = g := by
  split at h
  · cases h
    rfl
  · cases h

end Fault

end ChainedDecimal
