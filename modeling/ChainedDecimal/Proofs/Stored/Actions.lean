import ChainedDecimal.Bracket.Action
import ChainedDecimal.Proofs.Outcome

/-!
# What actions come to

An action is a sequence of steps, and what it comes to is found by taking one step after the other.

## Failing before writing

A failure does not undo what was written before it. `atomically` says of a sequence that it makes no
difference: it fails on the memory that it was started on, or succeeds. There is one way to show
this, `on_bind_eq_atomically`: a step that may fail has written nothing, and neither have the ones
before it. So it can be carried through a sequence only as long as nothing was written.
-/

namespace ChainedDecimal

namespace Bracket

namespace Memory

/-! ## Single writes -/

@[simp] theorem nodes_record (m : Memory) (formula : Option Nat) (change : Trace → Trace) :
    (m.record formula change).nodes = m.nodes := by
  cases formula <;> rfl

@[simp] theorem settings_record (m : Memory) (formula : Option Nat) (change : Trace → Trace) :
    (m.record formula change).settings = m.settings := by
  cases formula <;> rfl

@[simp] theorem events_record (m : Memory) (formula : Option Nat) (change : Trace → Trace) :
    (m.record formula change).events = m.events := by
  cases formula <;> rfl

theorem record_record (m : Memory) (formula : Option Nat) (f g : Trace → Trace) :
    (m.record formula f).record formula g = m.record formula (g ∘ f) := by
  cases formula with
  | none => rfl
  | some t => simp [record, List.modify_modify_eq]

theorem update_update (m : Memory) (a : Address) (f g : Node → Node) :
    (m.update a f).update a g = m.update a (g ∘ f) := by
  simp [update, List.modify_modify_eq]

theorem update_record (m : Memory) (formula : Option Nat) (f : Trace → Trace) (a : Address)
    (g : Node → Node) : (m.record formula f).update a g = (m.update a g).record formula f := by
  cases formula <;> rfl

/-- A formula that was written to has changed. -/
theorem formula?_record (m : Memory) (formula : Option Nat) (change : Trace → Trace) :
    (m.record formula change).formula? formula = (m.formula? formula).map change := by
  cases formula with
  | none => rfl
  | some t => simp [record, formula?]

/-- What a sequence of steps comes to if a failure leaves the memory as it was. -/
def atomically {α : Type} (m : Memory) : Except Fault (α × Memory) → Except Fault α × Memory
  | .error f => (.error f, m)
  | .ok (a, m') => (.ok a, m')

theorem atomically_eq_ok_iff {α : Type} {m m' : Memory} {e : Except Fault (α × Memory)} {a : α} :
    m.atomically e = (.ok a, m') ↔ e = .ok (a, m') := by
  rcases e with f | ⟨a', m''⟩ <;> simp [atomically]

end Memory

namespace Action

variable {α β : Type} {m m' : Memory} {self : Address} {n : Node}

/-! ## Sequences -/

theorem on_bind_ok {x : Action α} {a : α} (h : x.on m = (.ok a, m')) (f : α → Action β) :
    (x >>= f).on m = (f a).on m' := by
  simp only [on, StateT.run, ExceptT.run] at h ⊢
  simp only [bind, ExceptT.bind, ExceptT.mk, StateT.bind, ExceptT.bindCont, h]

theorem on_bind_error {x : Action α} {e : Fault} (h : x.on m = (.error e, m')) (f : α → Action β) :
    (x >>= f).on m = (.error e, m') := by
  simp only [on, StateT.run, ExceptT.run] at h ⊢
  simp only [bind, ExceptT.bind, ExceptT.mk, StateT.bind, ExceptT.bindCont, h]
  rfl

/-- A step that writes nothing may fail before all others. -/
theorem on_bind_eq_atomically {x : Action α} {e : Except Fault α} {f : α → Action β}
    {g : α → Except Fault (β × Memory)} (hx : x.on m = (e, m))
    (hf : ∀ a, e = .ok a → (f a).on m = m.atomically (g a)) :
    (x >>= f).on m = m.atomically (e >>= g) := by
  rcases e with err | a
  · exact on_bind_error hx f
  · rw [on_bind_ok hx]
    exact hf a rfl

/-! ## Single steps -/

theorem on_update (self : Address) (change : Node → Node) (m : Memory) :
    (update self change).on m = (.ok (), m.update self change) := rfl

theorem on_record (formula : Option Nat) (change : Trace → Trace) (m : Memory) :
    (record formula change).on m = (.ok (), m.record formula change) := rfl

theorem on_markOf (formula : Option Nat) (m : Memory) :
    (markOf formula).on m = (.ok (((m.formula? formula).map Trace.mark).getD 0), m) := rfl

theorem on_allocate (n : Node) (m : Memory) :
    (allocate n).on m = (.ok m.nodes.length, { m with nodes := m.nodes ++ [n] }) := rfl

theorem on_node? (self : Address) (m : Memory) :
    (node self).on m = (Fault.require .unknownRequest m.nodes[self]?, m) := rfl

theorem on_node (h : m.nodes[self]? = some n) : (node self).on m = (.ok n, m) := by
  rw [on_node?, h]
  rfl

/-! ## Checks -/

theorem on_checkOpen (h : m.nodes[self]? = some n) :
    (checkOpen self).on m = (if n.closed then .error .scopeClosed else .ok (), m) := by
  rw [checkOpen, on_bind_ok (on_node h)]
  cases n.closed <;> rfl

theorem on_checkNoOpenChild (h : m.nodes[self]? = some n) :
    (checkNoOpenChild self).on m =
      (if n.child.isSome then .error .nestedScopeOpen else .ok (), m) := by
  rw [checkNoOpenChild, on_bind_ok (on_node h)]
  cases n.child <;> rfl

theorem on_requireValue (h : m.nodes[self]? = some n) (f : Fault) :
    (requireValue self f).on m = (f.require n.value, m) := by
  rw [requireValue, on_bind_ok (on_node h)]
  rfl

theorem on_requireParent (h : m.nodes[self]? = some n) (f : Fault) :
    (requireParent self f).on m = (f.require n.parent, m) := by
  rw [requireParent, on_bind_ok (on_node h)]
  rfl

theorem on_checkScale (h : m.nodes[self]? = some n) :
    (checkScale self).on m = (if n.pending.needsScale && n.scale.isNone then
      .error (.missingScale n.pending) else .ok (), m) := by
  rw [checkScale, on_bind_ok (on_node h)]
  cases n.pending.needsScale && n.scale.isNone <;> rfl

/-! ## Checks that are passed -/

theorem on_checkOpen_of_open (h : m.nodes[self]? = some n) (hopen : n.closed = false) :
    (checkOpen self).on m = (.ok (), m) := by
  rw [on_checkOpen h, hopen]
  rfl

theorem on_checkNoOpenChild_of_none (h : m.nodes[self]? = some n) (hchild : n.child = none) :
    (checkNoOpenChild self).on m = (.ok (), m) := by
  rw [on_checkNoOpenChild h, hchild]
  rfl

theorem on_requireParent_of_some (h : m.nodes[self]? = some n) {parent : Address}
    (hparent : n.parent = some parent) (f : Fault) :
    (requireParent self f).on m = (.ok parent, m) := by
  rw [on_requireParent h, hparent]
  rfl

end Action

end Bracket

end ChainedDecimal
