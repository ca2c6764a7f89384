import ChainedDecimal.Proofs.Closure.Failures
import ChainedDecimal.Proofs.Spelled.Spells

/-!
# The text of a chain with callables tells its value

A group that is traced tells its value at any time, whatever a callable does to it and to the groups
around it: it may begin again, and a group around it may be acted on, begun again and answered with
while an operator on it is still waiting. What an operator takes from a group is read from it
together with its text.

Two things are left out. A new group that a callable answers with is not traced, so that no text is
there to tell its value. And a deed that leaves a seed leaves a group without a value whose text is
that of the seed. Other faults may be caught, and the groups go on telling their values.
-/

namespace ChainedDecimal

namespace Closure

/-! ## Groups -/

/-- The group is traced, and its text tells its value. -/
def Group.Tells (g : Group) : Prop := ∃ t, g.trace = some t ∧ Spells t.render g.value

/-- The text that comes with the value of a group tells it. -/
def Reading.Tells (r : Reading) : Prop := ∃ text, r.formula = some text ∧ Spells text (some r.value)

namespace Group

variable {g g' : Group}

theorem tells_fresh : (fresh true).Tells := ⟨.empty, rfl, .empty⟩

namespace Tells

theorem begin (h : g.Tells) {initial : Argument} (hg : g.begin initial = .ok g') : g'.Tells := by
  obtain ⟨t, ht, -⟩ := h
  obtain ⟨v, -, hg⟩ := Fault.bind_eq_ok.1 hg
  cases hg
  refine ⟨.ofValue? (some v), by rw [ht]; rfl, ?_⟩
  simpa [Trace.ofValue?, Trace.operand, Trace.render, Trace.empty, Argument.shown]
    using Spells.first v

theorem binary (h : g.Tells) {op : BinaryOp} {operand scale : Argument}
    (hg : g.binary op operand scale = .ok g') : g'.Tells := by
  obtain ⟨t, ht, htells⟩ := h
  obtain ⟨v, hv, hg⟩ := Fault.bind_eq_ok.1 hg
  obtain ⟨x, -, hg⟩ := Fault.bind_eq_ok.1 hg
  obtain ⟨w, hw, hg⟩ := Fault.bind_eq_ok.1 hg
  cases hg
  rw [Fault.require_eq_ok.1 hv] at htells
  refine ⟨t.binary op (.decimal x) scale, by rw [ht]; rfl, ?_⟩
  rw [Trace.binary, Trace.render_push]
  exact htells.step hw

theorem unary (h : g.Tells) {op : UnaryOp} {scale : Argument} (hg : g.unary op scale = .ok g') :
    g'.Tells := by
  obtain ⟨t, ht, htells⟩ := h
  obtain ⟨v, hv, hg⟩ := Fault.bind_eq_ok.1 hg
  obtain ⟨w, hw, hg⟩ := Fault.bind_eq_ok.1 hg
  cases hg
  rw [Fault.require_eq_ok.1 hv] at htells
  refine ⟨t.unary op scale 0, by rw [ht]; rfl, ?_⟩
  rw [Trace.render_unary]
  exact htells.unary hw

/-- The seed is recorded where there is no value, and then there is no other text. -/
theorem seeded (h : g.Tells) (op : BinaryOp) :
    ∃ t, (g.seeded op).trace = some t ∧ Spells t.render (some (g.leftOperand op)) := by
  obtain ⟨t, ht, htells⟩ := h
  rw [Group.seeded, leftOperand]
  cases hv : g.value with
  | some v =>
    rw [hv] at htells
    exact ⟨t, ht, htells⟩
  | none =>
    rw [hv] at htells
    refine ⟨t.operand (.decimal op.seed), by rw [ht]; rfl, ?_⟩
    rw [Trace.operand, Trace.render_push, htells.eq_empty, String.empty_append]
    exact .first op.seed

theorem absorb (h : g.Tells) {r : Reading} (hr : r.Tells) {op : BinaryOp} {scale : Argument}
    (hg : g.absorb op r scale = (.ok (), g')) : g'.Tells := by
  obtain ⟨t, ht, htells⟩ := h.seeded op
  obtain ⟨text, htext, hinner⟩ := hr
  unfold Group.absorb at hg
  split at hg
  · cases hg
  · rename_i w hw
    cases hg
    refine ⟨t.group (.binary op) text scale, by rw [ht, htext]; rfl, ?_⟩
    rw [Trace.group, Trace.render_push]
    exact htells.absorb hinner hw

theorem reading (h : g.Tells) {r : Reading} (hr : g.reading = .ok r) : r.Tells := by
  obtain ⟨t, ht, htells⟩ := h
  obtain ⟨v, hv, hr⟩ := Fault.bind_eq_ok.1 hr
  cases hr
  rw [Fault.require_eq_ok.1 hv] at htells
  exact ⟨t.render, by rw [formula?, ht]; rfl, htells⟩

end Tells

end Group

theorem Act.tells_on {act : Act} {g g' : Group} (h : g.Tells) (hg : act.on g = .ok g') :
    g'.Tells := by
  match act with
  | .begin _ => exact h.begin hg
  | .binary _ _ _ => exact h.binary hg
  | .unary _ _ => exact h.unary hg
  | .refused _ => cases hg

/-! ## Callables -/

/-- All groups tell their values afterwards, and the answer is as it should be if there is one. -/
def Run.Tells {α : Type} (P : α → Prop) (r : Run α) : Prop :=
  (∀ g ∈ r.groups, g.Tells) ∧ ∀ a, r.outcome = .ok a → P a

/-- Whether the callable answers with a group that it was given, its own or one around it. -/
def Answer.isGiven : Answer → Bool
  | .fresh _ => false
  | _ => true

/-- Whether the callable and all callables in it answer with groups that they were given. -/
def Script.answersGiven : Script → Bool
  | .finish answer => answer.isGiven
  | .plain _ _ _ rest => rest.answersGiven
  | .nest _ inner _ _ _ rest => inner.answersGiven && rest.answersGiven

/-- Whether an operand answers so, if it is a callable. -/
def Operand.answersGiven : Operand → Bool
  | .plain _ => true
  | .script s => s.answersGiven

variable {groups : List Group}

theorem Answer.tells_resolve {answer : Answer} (h : answer.isGiven = true)
    (hgroups : ∀ g ∈ groups, g.Tells) {g : Group} (hg : answer.resolve groups = .ok g) :
    g.Tells := by
  match answer with
  | .reachable level => exact hgroups g (List.mem_of_getElem? (Fault.require_eq_ok.1 hg))
  | .other .absent => exact hgroups g (List.mem_of_getElem? (Fault.require_eq_ok.1 hg))
  | .fresh _ => cases h
  | .refused _ => cases hg
  | .other (.truth _) | .other (.int _) | .other (.decimal _) | .other (.special _)
  | .other (.text _) | .other (.object _ _) => cases hg

theorem Deed.answersGiven_before (d : Deed) (level : ℕ) (caught : Bool) (rest : Script) :
    (d.before level caught rest).answersGiven =
      (d.inner?.all Script.answersGiven && rest.answersGiven) := by
  cases d with
  | plain act => exact (Bool.true_and _).symm
  | nest op inner scale => rfl

/-- What is read of a group tells its value. -/
theorem Run.Tells.finished {r : Run Group} (h : r.Tells Group.Tells) :
    r.finished.Tells Reading.Tells := by
  refine ⟨fun g hg ↦ h.1 g (List.mem_of_mem_tail hg), fun reading hok ↦ ?_⟩
  obtain ⟨g, hg, hreading⟩ := Fault.bind_eq_ok.1 hok
  exact (h.2 g hg).reading hreading

/-- A deed that leaves no seed keeps the groups telling, whether or not it fails. -/
theorem Deed.tells_perform_of {d : Deed} {level : ℕ} (hgroups : ∀ g ∈ groups, g.Tells)
    (hseed : d.leavesSeed level groups = false)
    (hinner : ∀ inner g, d.inner? = some inner → groups[level]? = some g →
      (inner.evaluate g.isTraced groups).Tells Reading.Tells) :
    ∀ g ∈ (d.perform level groups).groups, g.Tells := by
  have hperformed := d.performed level groups
  generalize d.perform level groups = r at hperformed ⊢
  cases hperformed with
  | unreachable none => exact hgroups
  | refused group_eq on_eq => exact hgroups
  | acted group_eq on_eq =>
    intro x hx
    rcases List.mem_or_eq_of_mem_set hx with hold | rfl
    · exact hgroups x hold
    · exact Act.tells_on (hgroups _ (List.mem_of_getElem? group_eq)) on_eq
  | unbuilt group_eq built_eq => exact (hinner _ _ rfl group_eq).1
  | @absorbed op inner scale g g' reading group_eq built_eq after_eq =>
    obtain ⟨hbuilt, hreading⟩ := hinner inner g rfl group_eq
    have hg' := hbuilt g' (List.mem_of_getElem? after_eq)
    intro x hx
    rcases List.mem_or_eq_of_mem_set hx with hold | rfl
    · exact hbuilt x hold
    · rcases habsorb : g'.absorb op reading scale with ⟨f | ⟨⟩, after⟩
      · have hf : (g'.absorb op reading scale).1 = .error f := by rw [habsorb]
        have hafter := Group.absorb_snd_of_error hf
        rw [Deed.leavesSeed_eq group_eq built_eq after_eq hf] at hseed
        rw [habsorb, Group.seeded_of_not op hseed] at hafter
        exact hafter ▸ hg'
      · exact hg'.absorb (hreading reading built_eq) habsorb

/-- **A callable that leaves no seed tells the value of the group that it answers with**, and those
of all groups that it can reach, whatever faults it catches. -/
theorem Script.tells_run {s : Script} (hs : s.answersGiven = true)
    (hgroups : ∀ g ∈ groups, g.Tells)
    (hseeds : ∀ m ∈ s.moments groups, m.deed.leavesSeed m.level m.groups = false) :
    (s.run groups).Tells Group.Tells := by
  induction s using Script.deed_induction generalizing groups with
  | finish answer => exact ⟨hgroups, fun g hg ↦ Answer.tells_resolve hs hgroups hg⟩
  | before d level caught rest ih_inner ih =>
    rw [Deed.answersGiven_before, Bool.and_eq_true] at hs
    rw [Deed.moments_before, List.forall_mem_cons, List.forall_mem_append] at hseeds
    obtain ⟨hhere, hinside, hbehind⟩ := hseeds
    have hperform := Deed.tells_perform_of hgroups hhere fun inner g hinner hg ↦ by
      obtain ⟨t, ht, -⟩ := hgroups g (List.mem_of_getElem? hg)
      have htraced : g.isTraced = true := by rw [Group.isTraced, ht]; rfl
      have hfresh : ∀ x ∈ Group.fresh g.isTraced :: groups, x.Tells :=
        List.forall_mem_cons.2 ⟨htraced ▸ Group.tells_fresh, hgroups⟩
      have hgiven : inner.answersGiven = true := by simpa [hinner] using hs.1
      exact (ih_inner inner hinner hgiven hfresh (Deed.inside_eq hg hinner ▸ hinside)).finished
    rw [Deed.run_before]
    rcases (d.perform level groups).proceed_cases level caught rest.run rest.moments with
      ⟨f, -, hstop, -⟩ | ⟨hgo, hrest⟩
    · rw [hstop]
      exact ⟨hperform, fun a ha ↦ by cases ha⟩
    · rw [hrest] at hbehind
      rw [hgo]
      exact ih hs.2 hperform hbehind

/-! ## Callables that catch no fault -/

/-- Where the operand of a deed that succeeds is built, it is built without a fault. -/
theorem Deed.evaluate_of_ok {d : Deed} {level : ℕ} {inner : Script} {g : Group}
    (hinner : d.inner? = some inner) (hg : groups[level]? = some g)
    (h : (d.perform level groups).outcome = .ok ()) :
    (∃ r, (inner.evaluate g.isTraced groups).outcome = .ok r) ∧
      (inner.evaluate g.isTraced groups).notes = (d.perform level groups).notes := by
  have hperformed := d.performed level groups
  generalize d.perform level groups = r at h hperformed ⊢
  cases hperformed with
  | unreachable none => cases h
  | refused group_eq on_eq => cases h
  | acted group_eq on_eq => cases hinner
  | unbuilt group_eq built_eq => cases h
  | absorbed group_eq built_eq after_eq =>
    cases hinner
    rw [hg, Option.some.injEq] at group_eq
    subst group_eq
    exact ⟨⟨_, built_eq⟩, rfl⟩

/-- If no fault is caught and none leaves the callable, no seed is left. -/
theorem Script.leavesSeed_of_uncaught {s : Script} {a : Group}
    (hok : (s.run groups).outcome = .ok a) (huncaught : ∀ f, Note.fault f ∉ (s.run groups).notes) :
    ∀ m ∈ s.moments groups, m.deed.leavesSeed m.level m.groups = false := by
  induction s using Script.deed_induction generalizing groups a with
  | finish answer => simp [moments]
  | before d level caught rest ih_inner ih =>
    rw [Deed.run_before] at hok huncaught
    rw [Deed.moments_before, List.forall_mem_cons, List.forall_mem_append]
    rcases (d.perform level groups).proceed_cases level caught rest.run rest.moments with
      ⟨f, -, hstop, -⟩ | ⟨hgo, hrest⟩
    · rw [hstop] at hok
      cases hok
    · rw [hgo] at hok huncaught
      rw [hrest]
      -- A fault of the deed itself would stand in its note.
      have hperform : (d.perform level groups).outcome = .ok () := by
        cases hr : (d.perform level groups).outcome with
        | ok _ => rfl
        | error f =>
          refine absurd (List.mem_append_right _ (List.mem_cons.2 (.inl ?_))) (huncaught f)
          rw [Run.note, hr]
      refine ⟨Deed.leavesSeed_of_ok hperform, fun m hm ↦ ?_, ih hok fun f hf ↦
        huncaught f (List.mem_append_right _ (List.mem_cons_of_mem _ hf))⟩
      obtain ⟨g, hg, hm⟩ := List.mem_flatMap.1 hm
      obtain ⟨inner, hinner, hm⟩ := List.mem_flatMap.1 hm
      rw [Option.mem_toList] at hg hinner
      obtain ⟨⟨r, hr⟩, hnotes⟩ := Deed.evaluate_of_ok hinner hg hperform
      obtain ⟨b, hb, -⟩ := Fault.bind_eq_ok.1 hr
      exact ih_inner inner hinner hb
        (fun f hf ↦ huncaught f (List.mem_append_left _ (hnotes ▸ hf))) m hm

/-- **A callable that catches no fault answers with a text that tells its value.** -/
theorem Script.tells_evaluate {s : Script} (hs : s.answersGiven = true) {r : Reading}
    (hok : (s.evaluate true []).outcome = .ok r)
    (huncaught : ∀ f, Note.fault f ∉ (s.evaluate true []).notes) : r.Tells := by
  obtain ⟨g, hg, -⟩ := Fault.bind_eq_ok.1 hok
  have hfresh := List.forall_mem_singleton.2 Group.tells_fresh
  exact (s.tells_run hs hfresh (Script.leavesSeed_of_uncaught hg huncaught)).finished.2 r hok

/-! ## Chains -/

namespace Chain

/-- If the chain is traced its formula tells its value. -/
def Tells (c : Chain) : Prop :=
  ∀ text, c.formula = some text → ∃ v, c.value = .finite v ∧ Spells text (some v)

/-- What is calculated from a first value: the chain is joined and changed, where callables answer
with groups that they were given and catch no fault. -/
inductive Calculated : Chain → Prop where
  | begin {initial : Argument} {traced : Bool} {c : Chain}
      (ok : Chain.begin initial traced = .ok c) : Calculated c
  | join {c c' : Chain} {op : BinaryOp} {operand : Operand} {scale : Argument} {notes : List Note}
      (before : Calculated c) (given : operand.answersGiven = true)
      (uncaught : ∀ f, Note.fault f ∉ notes) (ok : c.join op operand scale = (.ok c', notes)) :
      Calculated c'
  | change {c c' : Chain} {op : UnaryOp} {scale : Argument} (before : Calculated c)
      (ok : c.unary op scale = .ok c') : Calculated c'

variable {c c' : Chain}

theorem tells_begin {initial : Argument} {traced : Bool} (h : Chain.begin initial traced = .ok c) :
    c.Tells := by
  obtain ⟨v, -, rfl⟩ := Fault.map_eq_ok.1 h
  intro text htext
  cases traced with
  | false => cases htext
  | true =>
    cases htext
    exact ⟨_, rfl, .first _⟩

namespace Tells

theorem binary (h : c.Tells) {op : BinaryOp} {operand scale : Argument}
    (hc : c.binary op operand scale = .ok c') : c'.Tells := by
  obtain ⟨x, -, hc⟩ := Fault.bind_eq_ok.1 hc
  obtain ⟨w, hw, hc⟩ := Fault.bind_eq_ok.1 hc
  cases hc
  intro text' htext'
  obtain ⟨text, htext, rfl⟩ := Option.map_eq_some_iff.1 htext'
  obtain ⟨v, hv, htells⟩ := h text htext
  rw [hv, BinaryOp.extend_finite] at hw
  obtain ⟨u, hu, rfl⟩ := Fault.map_eq_ok.1 hw
  exact ⟨u, rfl, htells.step hu⟩

theorem unary (h : c.Tells) {op : UnaryOp} {scale : Argument} (hc : c.unary op scale = .ok c') :
    c'.Tells := by
  obtain ⟨w, hw, hc⟩ := Fault.bind_eq_ok.1 hc
  cases hc
  intro text' htext'
  obtain ⟨text, htext, rfl⟩ := Option.map_eq_some_iff.1 htext'
  obtain ⟨v, hv, htells⟩ := h text htext
  rw [hv, UnaryOp.extend_finite] at hw
  obtain ⟨u, hu, rfl⟩ := Fault.map_eq_ok.1 hw
  exact ⟨u, rfl, htells.unary hu⟩

theorem nest (h : c.Tells) {op : BinaryOp} {s : Script} {scale : Argument} {notes : List Note}
    (hs : s.answersGiven = true) (huncaught : ∀ f, Note.fault f ∉ notes)
    (hc : c.nest op s scale = (.ok c', notes)) : c'.Tells := by
  obtain ⟨hchain, rfl⟩ := Prod.mk.inj hc
  obtain ⟨r, hr, habsorb⟩ := Fault.bind_eq_ok.1 hchain
  obtain ⟨w, hw, hw'⟩ := Fault.bind_eq_ok.1 habsorb
  cases hw'
  intro text' htext'
  obtain ⟨text, htext, rfl⟩ := Option.map_eq_some_iff.1 htext'
  obtain ⟨v, hv, htells⟩ := h text htext
  have htraced : c.isTraced = true := by rw [isTraced, htext]; rfl
  rw [htraced] at hr huncaught
  obtain ⟨inner, hinner, hreading⟩ := Script.tells_evaluate hs hr huncaught
  rw [hv, BinaryOp.extend_finite] at hw
  obtain ⟨u, hu, rfl⟩ := Fault.map_eq_ok.1 hw
  rw [hinner]
  exact ⟨u, rfl, htells.absorb hreading hu⟩

end Tells

/-- **The formula of what is calculated tells the value.** -/
theorem Calculated.tells (h : c.Calculated) : c.Tells := by
  induction h with
  | begin ok => exact tells_begin ok
  | @join _ _ _ operand _ _ _ given uncaught ok ih =>
    match operand with
    | .plain _ => exact ih.binary (congrArg Prod.fst ok)
    | .script _ => exact ih.nest given uncaught ok
  | change _ ok ih => exact ih.unary ok

end Chain

end Closure

end ChainedDecimal
