import ChainedDecimal.Proofs.Closure.Failures
import ChainedDecimal.Proofs.Decimal.Fitting

/-!
# The values that groups hold

A value enters a group as its first value or as the outcome of an operator. Outcomes fit within the
limits. So whatever holds of all decimals that fit, and of the first values, holds of all values
that a group ever has: of the groups inside callables, however deep, at every moment while they are
built, and of those around them.

The first values are operands that are not joined with anything: those by which a group is begun,
and those of new groups that a callable answers with.
-/

namespace ChainedDecimal

namespace Closure

/-! ## Operands that become values -/

/-- The operand that a group is begun with. -/
def Act.firsts : Act → List Argument
  | .begin initial => [initial]
  | _ => []

/-- The operand that a new group is begun with to be answered. -/
def Answer.firsts : Answer → List Argument
  | .fresh initial => [initial]
  | _ => []

/-- The operands that groups are begun with when a callable is run. -/
def Script.firsts : Script → List Argument
  | .finish answer => answer.firsts
  | .plain act _ _ rest => act.firsts ++ rest.firsts
  | .nest _ inner _ _ _ rest => inner.firsts ++ rest.firsts

/-- The operands that groups are begun with when a deed is carried out. -/
def Deed.firsts : Deed → List Argument
  | .plain act => act.firsts
  | .nest _ inner _ => inner.firsts

theorem Deed.firsts_before (d : Deed) (level : ℕ) (caught : Bool) (rest : Script) :
    (d.before level caught rest).firsts = d.firsts ++ rest.firsts := by
  cases d <;> rfl

theorem Deed.firsts_of_inner? {d : Deed} {inner : Script} (h : d.inner? = some inner) :
    d.firsts = inner.firsts := by
  cases d with
  | plain act => cases h
  | nest op s scale =>
    cases h
    rfl

/-! ## One group -/

variable {P : Decimal → Prop}

namespace Group

variable {g g' : Group} {op : BinaryOp} {scale : Argument}

/-- If the group has a value, the value has a property. -/
def Holds (P : Decimal → Prop) (g : Group) : Prop := ∀ v, g.value = some v → P v

theorem holds_fresh (traced : Bool) : (fresh traced).Holds P := by
  intro v hv
  cases hv

theorem holds_of_eq_some {v : Decimal} (hg : g.value = some v) (hv : P v) : g.Holds P := by
  intro w hw
  rw [hg, Option.some.injEq] at hw
  exact hw ▸ hv

theorem holds_begin {initial : Argument} (hinitial : initial.Satisfies P)
    (hg : g.begin initial = .ok g') : g'.Holds P := by
  obtain ⟨v, hv, hg⟩ := Fault.bind_eq_ok.1 hg
  cases hg
  exact holds_of_eq_some rfl (hinitial v hv)

theorem holds_binary (hP : ∀ d : Decimal, d.Fits → P d) {operand : Argument}
    (hg : g.binary op operand scale = .ok g') : g'.Holds P := by
  obtain ⟨v, -, hg⟩ := Fault.bind_eq_ok.1 hg
  obtain ⟨x, -, hg⟩ := Fault.bind_eq_ok.1 hg
  obtain ⟨w, hw, hg⟩ := Fault.bind_eq_ok.1 hg
  cases hg
  exact holds_of_eq_some rfl (hP w (BinaryOp.fits_of_apply hw))

theorem holds_unary (hP : ∀ d : Decimal, d.Fits → P d) {op : UnaryOp}
    (hg : g.unary op scale = .ok g') : g'.Holds P := by
  obtain ⟨v, -, hg⟩ := Fault.bind_eq_ok.1 hg
  obtain ⟨w, hw, hg⟩ := Fault.bind_eq_ok.1 hg
  cases hg
  exact holds_of_eq_some rfl (hP w (UnaryOp.fits_of_apply hw))

namespace Holds

/-- An operator on a group that fails does not set its value. -/
theorem absorb (h : g.Holds P) (hP : ∀ d : Decimal, d.Fits → P d) (op : BinaryOp) (r : Reading)
    (scale : Argument) : (g.absorb op r scale).2.Holds P := by
  unfold Group.absorb
  split
  · intro v hv
    exact h v (g.value_seeded op ▸ hv)
  · rename_i w hw
    exact holds_of_eq_some rfl (hP w (BinaryOp.fits_of_apply hw))

theorem reading (h : g.Holds P) {r : Reading} (hr : g.reading = .ok r) : P r.value := by
  obtain ⟨v, hv, hr⟩ := Fault.bind_eq_ok.1 hr
  cases hr
  exact h v (Fault.require_eq_ok.1 hv)

end Holds

end Group

theorem Act.holds_on (hP : ∀ d : Decimal, d.Fits → P d) {act : Act} {g g' : Group}
    (hfirsts : ∀ x ∈ act.firsts, x.Satisfies P) (hg : act.on g = .ok g') : g'.Holds P := by
  match act with
  | .begin initial => exact Group.holds_begin (hfirsts initial (List.mem_singleton_self _)) hg
  | .binary _ _ _ => exact Group.holds_binary hP hg
  | .unary _ _ => exact Group.holds_unary hP hg
  | .refused _ => cases hg

/-! ## Callables -/

variable {groups : List Group}

theorem Answer.holds_resolve {answer : Answer} (hfirsts : ∀ x ∈ answer.firsts, x.Satisfies P)
    (hgroups : ∀ g ∈ groups, g.Holds P) {g : Group} (hg : answer.resolve groups = .ok g) :
    g.Holds P := by
  cases answer with
  | reachable level => exact hgroups g (List.mem_of_getElem? (Fault.require_eq_ok.1 hg))
  | fresh initial =>
    have hinitial := hfirsts initial (List.mem_singleton_self _)
    cases initial with
    | absent =>
      cases hg
      exact Group.holds_fresh false
    | _ => exact Group.holds_begin hinitial hg
  | other x =>
    cases x with
    | absent => exact hgroups g (List.mem_of_getElem? (Fault.require_eq_ok.1 hg))
    | _ => cases hg
  | refused why => cases hg

/-- The values of all groups have a property afterwards, and so has the outcome if there is one. -/
structure Run.Holds {α : Type} (P : Decimal → Prop) (Q : α → Prop) (r : Run α) : Prop where
  groups : ∀ g ∈ r.groups, g.Holds P
  outcome : ∀ a, r.outcome = .ok a → Q a

theorem Run.Holds.finished {r : Run Group} (h : r.Holds P (Group.Holds P)) :
    r.finished.Holds P fun reading ↦ P reading.value := by
  refine ⟨fun g hg ↦ h.groups g (List.mem_of_mem_tail hg), fun reading hok ↦ ?_⟩
  obtain ⟨g, hg, hreading⟩ := Fault.bind_eq_ok.1 hok
  exact (h.outcome g hg).reading hreading

/-- A deed keeps the property, whether or not it fails, if building its operand does. -/
theorem Deed.holds_perform_of (hP : ∀ d : Decimal, d.Fits → P d) {d : Deed} {level : ℕ}
    (hfirsts : ∀ x ∈ d.firsts, x.Satisfies P) (hgroups : ∀ g ∈ groups, g.Holds P)
    (hinner : ∀ inner g, d.inner? = some inner → groups[level]? = some g →
      ∀ g' ∈ (inner.evaluate g.isTraced groups).groups, g'.Holds P) :
    ∀ g ∈ (d.perform level groups).groups, g.Holds P := by
  have hperformed := d.performed level groups
  generalize d.perform level groups = r at hperformed ⊢
  cases hperformed with
  | unreachable none => exact hgroups
  | refused group_eq on_eq => exact hgroups
  | acted group_eq on_eq =>
    intro x hx
    rcases List.mem_or_eq_of_mem_set hx with hold | rfl
    · exact hgroups x hold
    · exact Act.holds_on hP hfirsts on_eq
  | unbuilt group_eq built_eq => exact hinner _ _ rfl group_eq
  | absorbed group_eq built_eq after_eq =>
    have hbuilt := hinner _ _ rfl group_eq
    intro x hx
    rcases List.mem_or_eq_of_mem_set hx with hold | rfl
    · exact hbuilt x hold
    · exact (hbuilt _ (List.mem_of_getElem? after_eq)).absorb hP _ _ _

/-- Before the deed and after it the values of all groups in reach have a property. -/
structure Moment.Holds (P : Decimal → Prop) (m : Moment) : Prop where
  before : ∀ g ∈ m.groups, g.Holds P
  after : ∀ g ∈ (m.deed.perform m.level m.groups).groups, g.Holds P

/-- **Whatever a callable does, the values that it meets and leaves have the property**, if those
have it that it begins groups with. -/
theorem Script.holds_run (hP : ∀ d : Decimal, d.Fits → P d) {s : Script}
    (hfirsts : ∀ x ∈ s.firsts, x.Satisfies P) (hgroups : ∀ g ∈ groups, g.Holds P) :
    (s.run groups).Holds P (Group.Holds P) ∧ ∀ m ∈ s.moments groups, m.Holds P := by
  induction s using Script.deed_induction generalizing groups with
  | finish answer =>
    refine ⟨⟨hgroups, fun g hg ↦ Answer.holds_resolve hfirsts hgroups hg⟩, ?_⟩
    exact List.forall_mem_nil _
  | before d level caught rest ih_inner ih =>
    rw [Deed.firsts_before, List.forall_mem_append] at hfirsts
    obtain ⟨hdeed, hrest⟩ := hfirsts
    have hinner : ∀ inner (g : Group), d.inner? = some inner →
        (inner.run (.fresh g.isTraced :: groups)).Holds P (Group.Holds P) ∧
          ∀ m ∈ inner.moments (.fresh g.isTraced :: groups), m.Holds P := by
      intro inner g hd
      have hfresh := List.forall_mem_cons.2 ⟨Group.holds_fresh g.isTraced, hgroups⟩
      exact ih_inner inner hd (Deed.firsts_of_inner? hd ▸ hdeed) hfresh
    have hperform : ∀ g ∈ (d.perform level groups).groups, g.Holds P :=
      Deed.holds_perform_of hP hdeed hgroups fun inner g hd _ ↦
        (hinner inner g hd).1.finished.groups
    have hinside : ∀ m ∈ d.inside level groups, m.Holds P := by
      intro m hm
      obtain ⟨g, -, hm⟩ := List.mem_flatMap.1 hm
      obtain ⟨inner, hd, hm⟩ := List.mem_flatMap.1 hm
      exact (hinner inner g (Option.mem_toList.1 hd)).2 m hm
    rw [Deed.run_before, Deed.moments_before, List.forall_mem_cons, List.forall_mem_append]
    rcases (d.perform level groups).proceed_cases level caught rest.run rest.moments with
      ⟨f, -, hstop, hnone⟩ | ⟨hgo, hbehind⟩
    · rw [hstop, hnone]
      refine ⟨⟨hperform, fun a ha ↦ ?_⟩, ⟨hgroups, hperform⟩, hinside, List.forall_mem_nil _⟩
      cases ha
    · obtain ⟨hafter, hmoments⟩ := ih hrest hperform
      rw [hgo, hbehind]
      exact ⟨⟨hafter.groups, hafter.outcome⟩, ⟨hgroups, hperform⟩, hinside, hmoments⟩

end Closure

end ChainedDecimal
