import ChainedDecimal.Closure.Chain
import ChainedDecimal.Proofs.Outcome
import Mathlib.Data.List.Basic

/-!
# What a callable does, deed by deed

The steps of a callable are deeds: an act with plain arguments, or an operator whose operand is
built by another callable. Carrying out a deed does one of five things, and `Performed` lists them.
Whatever a run preserves is proved from this list, by induction on the callable with one case for
its answer and one for a deed in front of the others.

`moments` are the deeds that a run in fact carries out, those of nested callables included, each
with the groups that it found. They are what a condition on a run is put in terms of.
-/

namespace ChainedDecimal

namespace Closure

/-- What a step of a callable does. -/
inductive Deed where
  /-- An act with plain arguments. -/
  | plain (act : Act)
  /-- An operator whose operand is built by a callable. -/
  | nest (op : BinaryOp) (inner : Script) (scale : Argument)
deriving DecidableEq

namespace Deed

/-- Carries out a deed on one of the reachable groups. -/
def perform : Deed → ℕ → List Group → Run Unit
  | .plain act, level, groups => act.perform level groups
  | .nest op inner scale, level, groups =>
    absorbing op scale level groups fun traced ↦ inner.evaluate traced groups

/-- The callable that does a deed first. -/
def before (d : Deed) (level : ℕ) (caught : Bool) (rest : Script) : Script :=
  match d with
  | .plain act => .plain act level caught rest
  | .nest op inner scale => .nest op inner scale level caught rest

/-- The callable that builds the operand. -/
def inner? : Deed → Option Script
  | .plain _ => none
  | .nest _ inner _ => some inner

theorem run_before (d : Deed) (level : ℕ) (caught : Bool) (rest : Script) (groups : List Group) :
    (d.before level caught rest).run groups =
      (d.perform level groups).proceed level caught rest.run := by
  cases d <;> rfl

end Deed

/-- Every callable answers at once, or does a deed first. -/
@[elab_as_elim]
theorem Script.deed_induction {P : Script → Prop} (finish : ∀ answer, P (.finish answer))
    (before : ∀ (d : Deed) level caught rest, (∀ inner, d.inner? = some inner → P inner) →
      P rest → P (d.before level caught rest)) (s : Script) : P s := by
  induction s with
  | finish answer => exact finish answer
  | plain act level caught rest ih =>
    exact before (.plain act) level caught rest (fun inner h ↦ by cases h) ih
  | nest op inner scale level caught rest ih_inner ih_rest =>
    refine before (.nest op inner scale) level caught rest (fun s h ↦ ?_) ih_rest
    cases h
    exact ih_inner

/-! ## Moments -/

/-- A deed that is carried out, on one of the groups that are reachable then. -/
structure Moment where
  /-- What is done. -/
  deed : Deed
  /-- Which of the groups it is done to. -/
  level : ℕ
  /-- The groups before. -/
  groups : List Group

/-- The moments behind a deed, unless it ended with a fault that is not caught. -/
def Run.behind (r : Run Unit) (caught : Bool) (next : List Group → List Moment) : List Moment :=
  match r.outcome, caught with
  | .error _, false => []
  | _, _ => next r.groups

/-- All that is carried out when a callable is run, one thing after the other. A deed stands in
front of what is carried out for its operand. -/
def Script.moments : Script → List Group → List Moment
  | .finish _, _ => []
  | .plain act level caught rest, groups =>
    ⟨.plain act, level, groups⟩ ::
      (act.perform level groups).behind caught fun after ↦ rest.moments after
  | .nest op inner scale level caught rest, groups =>
    ⟨.nest op inner scale, level, groups⟩ ::
      ((groups[level]?.toList.flatMap fun g ↦ inner.moments (.fresh g.isTraced :: groups)) ++
        ((Deed.nest op inner scale).perform level groups).behind caught
          fun after ↦ rest.moments after)

namespace Deed

/-- What is carried out for the operand of a deed. -/
def inside (d : Deed) (level : ℕ) (groups : List Group) : List Moment :=
  groups[level]?.toList.flatMap fun g ↦
    d.inner?.toList.flatMap fun inner ↦ inner.moments (.fresh g.isTraced :: groups)

theorem moments_before (d : Deed) (level : ℕ) (caught : Bool) (rest : Script)
    (groups : List Group) :
    (d.before level caught rest).moments groups = ⟨d, level, groups⟩ ::
      (d.inside level groups ++ (d.perform level groups).behind caught rest.moments) := by
  cases d with
  | plain act =>
    cases h : groups[level]? <;> simp [before, Script.moments, inside, inner?, h, perform]
  | nest op inner scale => simp [before, Script.moments, inside, inner?]

end Deed

/-- A run stops behind a deed, or goes on with the groups that the deed left. -/
theorem Run.proceed_cases (r : Run Unit) (level : ℕ) (caught : Bool) (next : List Group → Run Group)
    (later : List Group → List Moment) :
    (∃ f, r.outcome = .error f ∧
        r.proceed level caught next = ⟨.error f, r.groups, r.notes ++ [r.note level]⟩ ∧
        r.behind caught later = []) ∨
      (r.proceed level caught next = ⟨(next r.groups).outcome, (next r.groups).groups,
          r.notes ++ r.note level :: (next r.groups).notes⟩ ∧
        r.behind caught later = later r.groups) := by
  unfold proceed behind
  cases hr : r.outcome with
  | ok a => exact Or.inr ⟨rfl, rfl⟩
  | error f =>
    cases caught with
    | true => exact Or.inr ⟨rfl, rfl⟩
    | false => exact Or.inl ⟨f, rfl, rfl, rfl⟩

/-! ## What a deed does -/

variable {groups : List Group} {level : ℕ}

theorem length_absorbing {op : BinaryOp} {scale : Argument} {build : Bool → Run Reading}
    (h : ∀ traced, (build traced).groups.length = groups.length) :
    (absorbing op scale level groups build).groups.length = groups.length := by
  unfold absorbing
  split
  · rfl
  · dsimp only
    split
    · exact h _
    · exact h _
    · rw [List.length_set, h]

theorem length_evaluate {s : Script} {traced : Bool}
    (h : ∀ gs : List Group, (s.run gs).groups.length = gs.length) :
    (s.evaluate traced groups).groups.length = groups.length := by
  rw [Script.evaluate, Run.finished, List.length_tail, h, List.length_cons, Nat.add_sub_cancel]

theorem Deed.length_perform_of {d : Deed}
    (h : ∀ inner, d.inner? = some inner → ∀ gs : List Group,
      (inner.run gs).groups.length = gs.length) :
    (d.perform level groups).groups.length = groups.length := by
  cases d with
  | plain act =>
    rw [perform, Act.perform]
    split
    · rfl
    · exact List.length_set
  | nest op inner scale => exact length_absorbing fun _ ↦ length_evaluate (h inner rfl)

/-- The groups that can be reached stay as many. -/
theorem Script.length_run (s : Script) (groups : List Group) :
    (s.run groups).groups.length = groups.length := by
  induction s using Script.deed_induction generalizing groups with
  | finish answer => rfl
  | before d level caught rest ih_inner ih =>
    have hperform : (d.perform level groups).groups.length = groups.length :=
      d.length_perform_of ih_inner
    rw [Deed.run_before]
    rcases (d.perform level groups).proceed_cases level caught rest.run rest.moments with
      ⟨f, -, hstop, -⟩ | ⟨hgo, -⟩
    · rw [hstop, hperform]
    · rw [hgo, ih, hperform]

theorem Script.length_evaluate (s : Script) (traced : Bool) (groups : List Group) :
    (s.evaluate traced groups).groups.length = groups.length :=
  Closure.length_evaluate s.length_run

theorem Deed.length_perform (d : Deed) (level : ℕ) (groups : List Group) :
    (d.perform level groups).groups.length = groups.length :=
  d.length_perform_of fun inner _ ↦ inner.length_run

/-- What carrying out a deed can come to. -/
inductive Performed (level : ℕ) (groups : List Group) : Deed → Run Unit → Prop where
  /-- There is no such group. -/
  | unreachable {d : Deed} (none : groups[level]? = none) :
    Performed level groups d ⟨.error .noSuchGroup, groups, []⟩
  /-- The act fails. -/
  | refused {act : Act} {g : Group} {f : Fault} (group_eq : groups[level]? = some g)
      (on_eq : act.on g = .error f) : Performed level groups (.plain act) ⟨.error f, groups, []⟩
  /-- The act succeeds. -/
  | acted {act : Act} {g g' : Group} (group_eq : groups[level]? = some g)
      (on_eq : act.on g = .ok g') :
      Performed level groups (.plain act) ⟨.ok (), groups.set level g', []⟩
  /-- The operand is not built. -/
  | unbuilt {op : BinaryOp} {inner : Script} {scale : Argument} {g : Group} {f : Fault}
      (group_eq : groups[level]? = some g)
      (built_eq : (inner.evaluate g.isTraced groups).outcome = .error f) :
      Performed level groups (.nest op inner scale) ⟨.error f,
        (inner.evaluate g.isTraced groups).groups, (inner.evaluate g.isTraced groups).notes⟩
  /-- The operand is built, and the operator is tried on the group as it is then. -/
  | absorbed {op : BinaryOp} {inner : Script} {scale : Argument} {g g' : Group} {r : Reading}
      (group_eq : groups[level]? = some g)
      (built_eq : (inner.evaluate g.isTraced groups).outcome = .ok r)
      (after_eq : (inner.evaluate g.isTraced groups).groups[level]? = some g') :
      Performed level groups (.nest op inner scale) ⟨(g'.absorb op r scale).1,
        (inner.evaluate g.isTraced groups).groups.set level (g'.absorb op r scale).2,
        (inner.evaluate g.isTraced groups).notes⟩

theorem Deed.performed (d : Deed) (level : ℕ) (groups : List Group) :
    Performed level groups d (d.perform level groups) := by
  cases hg : groups[level]? with
  | none =>
    have hperform : d.perform level groups = ⟨.error .noSuchGroup, groups, []⟩ := by
      cases d with
      | plain act => rw [perform, Act.perform, hg]; rfl
      | nest op inner scale => rw [perform, absorbing, hg]
    rw [hperform]
    exact .unreachable hg
  | some g =>
    cases d with
    | plain act =>
      have hon : (Fault.require .noSuchGroup groups[level]?).bind act.on = act.on g := by
        rw [hg]
        rfl
      rw [perform, Act.perform, hon]
      cases hact : act.on g with
      | error f => exact .refused hg hact
      | ok g' => exact .acted hg hact
    | nest op inner scale =>
      rw [perform, absorbing, hg]
      dsimp only
      cases hbuilt : (inner.evaluate g.isTraced groups).outcome with
      | error f => exact .unbuilt hg hbuilt
      | ok r =>
        have hlt : level < (inner.evaluate g.isTraced groups).groups.length := by
          rw [inner.length_evaluate]
          exact (List.getElem?_eq_some_iff.1 hg).1
        rw [List.getElem?_eq_getElem hlt]
        exact .absorbed hg hbuilt (List.getElem?_eq_getElem hlt)

end Closure

end ChainedDecimal
