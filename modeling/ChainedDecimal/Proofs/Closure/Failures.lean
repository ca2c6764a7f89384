import ChainedDecimal.Proofs.Closure.Deeds
import ChainedDecimal.Proofs.Shared.Script

/-!
# What a failed deed leaves behind

A deed that fails leaves the group that it was done to as it was, unless the callable for the
operand acted on that group itself. There is one exception: an operator on a group without a value
records its seed before it is carried out, so that the seed stays in the formula of a traced group
if the operator then fails. The value is not set even then.

## Which group is meant

A callable sees the groups from the inside out, and every callable around it adds one in front. So
a group keeps its height, which is counted from the outermost group, and not its level.
-/

namespace ChainedDecimal

namespace Closure

/-! ## Groups that are not acted on -/

/-- The moment acts on the group at a height. -/
def Moment.ActsOn (m : Moment) (height : ℕ) : Prop := m.level + height = m.groups.length

instance (m : Moment) (height : ℕ) : Decidable (m.ActsOn height) :=
  inferInstanceAs (Decidable (_ = _))

variable {d : Deed} {s : Script} {groups : List Group} {level height : ℕ} {g : Group}

theorem Deed.inside_eq {inner : Script} (hg : groups[level]? = some g)
    (hinner : d.inner? = some inner) :
    d.inside level groups = inner.moments (.fresh g.isTraced :: groups) := by
  simp [inside, hg, hinner]

/-- Another group stays the same if it does so while the operand is built. -/
theorem Deed.getElem?_perform_of {other : ℕ} (hne : level ≠ other)
    (hinner : ∀ inner g, d.inner? = some inner → groups[level]? = some g →
      (inner.evaluate g.isTraced groups).groups[other]? = groups[other]?) :
    (d.perform level groups).groups[other]? = groups[other]? := by
  have hperformed := d.performed level groups
  generalize d.perform level groups = r at hperformed ⊢
  cases hperformed with
  | unreachable none => rfl
  | refused group_eq on_eq => rfl
  | acted group_eq on_eq => exact List.getElem?_set_ne hne
  | unbuilt group_eq built_eq => exact hinner _ _ rfl group_eq
  | absorbed group_eq built_eq after_eq =>
    exact (List.getElem?_set_ne hne).trans (hinner _ _ rfl group_eq)

theorem getElem?_evaluate {traced : Bool}
    (h : (s.run (.fresh traced :: groups)).groups[level + 1]? = groups[level]?) :
    (s.evaluate traced groups).groups[level]? = groups[level]? := by
  rw [← h]
  exact List.getElem?_tail

/-- A run leaves the groups alone that it does not act on. -/
theorem Script.getElem?_run (s : Script) (hheight : level + height = groups.length)
    (h : ∀ m ∈ s.moments groups, ¬m.ActsOn height) :
    (s.run groups).groups[level]? = groups[level]? := by
  induction s using Script.deed_induction generalizing groups level with
  | finish answer => rfl
  | before d l caught rest ih_inner ih =>
    rw [Deed.moments_before, List.forall_mem_cons, List.forall_mem_append] at h
    obtain ⟨hhere, hinside, hbehind⟩ := h
    have hne : l ≠ level := by
      rintro rfl
      exact hhere hheight
    -- Inside there is one more group in front, so the level is one more at the same height.
    have hperform := d.getElem?_perform_of hne fun inner g hinner hg ↦
      getElem?_evaluate (ih_inner inner hinner (by rw [List.length_cons]; omega)
        (Deed.inside_eq hg hinner ▸ hinside))
    rw [Deed.run_before]
    rcases (d.perform l groups).proceed_cases l caught rest.run rest.moments with
      ⟨f, -, hstop, -⟩ | ⟨hgo, hrest⟩
    · rw [hstop, hperform]
    · rw [hrest] at hbehind
      rw [hgo]
      exact (ih (by rw [d.length_perform, hheight]) hbehind).trans hperform

/-- A callable for the operand leaves the group alone if it does not act on it. -/
theorem Deed.getElem?_evaluate {inner : Script} (hinner : d.inner? = some inner)
    (hg : groups[level]? = some g)
    (h : ∀ m ∈ d.inside level groups, ¬m.ActsOn (groups.length - level)) :
    (inner.evaluate g.isTraced groups).groups[level]? = some g := by
  have hlt : level < groups.length := (List.getElem?_eq_some_iff.1 hg).1
  rw [← hg]
  exact Closure.getElem?_evaluate (inner.getElem?_run
    (by rw [List.length_cons]; omega) (Deed.inside_eq hg hinner ▸ h))

/-! ## Seeds that are left -/

/-- The operator fails on a traced group without a value, and its operand was built: the seed stays
in the formula of the group. -/
def Deed.leavesSeed : Deed → ℕ → List Group → Bool
  | .plain _, _, _ => false
  | .nest op inner scale, level, groups =>
    match groups[level]? with
    | none => false
    | some g =>
      let built := inner.evaluate g.isTraced groups
      match built.outcome, built.groups[level]? with
      | .ok r, some g' =>
        g'.isTraced && g'.value.isNone && !(g'.absorb op r scale).1.isOk
      | _, _ => false

namespace Group

theorem absorb_snd_of_error {op : BinaryOp} {r : Reading} {scale : Argument} {f : Fault}
    (h : (g.absorb op r scale).1 = .error f) : (g.absorb op r scale).2 = g.seeded op := by
  unfold absorb at h ⊢
  split at h
  · rfl
  · cases h

theorem value_seeded (g : Group) (op : BinaryOp) : (g.seeded op).value = g.value := by
  rcases g with ⟨value, trace⟩
  cases value <;> rfl

/-- Where there is a value or no trace, no seed is recorded. -/
theorem seeded_of_not (op : BinaryOp) (h : (g.isTraced && g.value.isNone) = false) :
    g.seeded op = g := by
  rcases g with ⟨value, trace⟩
  cases value with
  | some v => rfl
  | none =>
    cases trace with
    | none => rfl
    | some t => cases h

/-- Otherwise it shows in the formula. -/
theorem formula?_seeded_ne (op : BinaryOp) (h : (g.isTraced && g.value.isNone) = true) :
    (g.seeded op).formula? ≠ g.formula? := by
  rcases g with ⟨value, trace⟩
  cases value with
  | some v => cases trace <;> cases h
  | none =>
    cases trace with
    | none => cases h
    | some t =>
      intro heq
      have hrender : t.render ++ op.seed.text = t.render := by
        rw [← Trace.render_push]
        exact Option.some.inj heq
      have hseed : op.seed.text.length = 1 := by cases op <;> decide
      have hlength := congrArg String.length hrender
      rw [String.length_append, hseed] at hlength
      omega

end Group

theorem Deed.leavesSeed_eq {op : BinaryOp} {inner : Script} {scale : Argument} {g' : Group}
    {r : Reading} {f : Fault} (hg : groups[level]? = some g)
    (hbuilt : (inner.evaluate g.isTraced groups).outcome = .ok r)
    (hafter : (inner.evaluate g.isTraced groups).groups[level]? = some g')
    (hf : (g'.absorb op r scale).1 = .error f) :
    (Deed.nest op inner scale).leavesSeed level groups = (g'.isTraced && g'.value.isNone) := by
  simp only [leavesSeed, hg, hbuilt, hafter, hf]
  exact Bool.and_true _

/-- A deed that succeeds leaves no seed. -/
theorem Deed.leavesSeed_of_ok (h : (d.perform level groups).outcome = .ok ()) :
    d.leavesSeed level groups = false := by
  have hperformed := d.performed level groups
  generalize d.perform level groups = r at h hperformed
  cases hperformed with
  | unreachable none => cases h
  | refused group_eq on_eq => cases h
  | acted group_eq on_eq => rfl
  | unbuilt group_eq built_eq => cases h
  | @absorbed op _ scale _ g' r group_eq built_eq after_eq =>
    have hok : (g'.absorb op r scale).1 = .ok () := h
    simp only [leavesSeed, group_eq, built_eq, after_eq, hok]
    exact Bool.and_false _

/-! ## What a failure leaves -/

/-- **A deed that fails leaves the value of its group alone, and the formula too unless it leaves a
seed there**, provided that the callable for the operand does not act on the group. -/
theorem Deed.group_of_fault {f : Fault} (hg : groups[level]? = some g)
    (hf : (d.perform level groups).outcome = .error f)
    (hothers : ∀ m ∈ d.inside level groups, ¬m.ActsOn (groups.length - level)) :
    ∃ g', (d.perform level groups).groups[level]? = some g' ∧ g'.value = g.value ∧
      (g'.formula? = g.formula? ↔ d.leavesSeed level groups = false) := by
  have hperformed := d.performed level groups
  generalize d.perform level groups = r at hf hperformed ⊢
  cases hperformed with
  | unreachable none =>
    rw [hg] at none
    cases none
  | refused group_eq on_eq => exact ⟨g, hg, rfl, iff_of_true rfl rfl⟩
  | acted group_eq on_eq => cases hf
  | @unbuilt op inner scale g₀ _ group_eq built_eq =>
    rw [hg, Option.some.injEq] at group_eq
    subst group_eq
    refine ⟨g, Deed.getElem?_evaluate rfl hg hothers, rfl, iff_of_true rfl ?_⟩
    simp only [leavesSeed, hg, built_eq]
  | @absorbed op inner scale g₀ g' reading group_eq built_eq after_eq =>
    rw [hg, Option.some.injEq] at group_eq
    subst group_eq
    have hsame := Deed.getElem?_evaluate (d := .nest op inner scale) rfl hg hothers
    rw [after_eq, Option.some.injEq] at hsame
    subst hsame
    have hlt : level < (inner.evaluate g'.isTraced groups).groups.length :=
      (List.getElem?_eq_some_iff.1 after_eq).1
    have hleaves := Deed.leavesSeed_eq hg built_eq after_eq hf
    rw [hleaves, Group.absorb_snd_of_error hf]
    refine ⟨g'.seeded op, List.getElem?_set_self hlt, g'.value_seeded op, ?_⟩
    cases hseed : g'.isTraced && g'.value.isNone with
    | false => exact iff_of_true (by rw [Group.seeded_of_not op hseed]) rfl
    | true => exact iff_of_false (Group.formula?_seeded_ne op hseed) (by simp)

end Closure

end ChainedDecimal
