import ChainedDecimal.Closure.Chain
import ChainedDecimal.Proofs.Alike.Bracket

/-!
# Groups and callables side by side

Groups are alike if their values are; traces do not count, and one of two alike groups may be traced
while the other is not. Alike callables do the same steps, nested ones included, to the same groups
with alike operands, and catch the same faults. What they leave behind on alike groups is alike: the
outcome, the groups and the notes.
-/

namespace ChainedDecimal

variable {L : Likeness}

namespace Closure

/-! ## The operations of a callable -/

/-- The operation that an act on a group carries out, if it comes to that. -/
def Act.operations (act : Act) (g : Group) : List Operation :=
  match act with
  | .binary op operand scale =>
    match g.value, operand.toDecimal with
    | some v, .ok x => [.binary op v x scale]
    | _, _ => []
  | .unary op scale => (g.value.map fun v ↦ .unary op v scale).toList
  | .begin _ | .refused _ => []

/-- The operation that an act on one of the reachable groups carries out. -/
def Act.operationsAt (act : Act) (level : ℕ) (groups : List Group) : List Operation :=
  (groups[level]?.map act.operations).getD []

/-- What is carried out after a step, unless it ended with a fault that is not caught. -/
def Run.operationsAfter (r : Run Unit) (caught : Bool) (next : List Group → List Operation) :
    List Operation :=
  match r.outcome, caught with
  | .error _, false => []
  | _, _ => next r.groups

/-- The operation that joins one of the reachable groups with a group that was built. -/
def joiningOperations (op : BinaryOp) (scale : Argument) (level : ℕ) (built : Run Reading) :
    List Operation :=
  match built.outcome, built.groups[level]? with
  | .ok reading, some g => [.binary op (g.leftOperand op) reading.value scale]
  | _, _ => []

/-- The operations of building a group and of joining one of the reachable groups with it. -/
def absorbingOperations (op : BinaryOp) (scale : Argument) (level : ℕ) (groups : List Group)
    (build : Bool → Run Reading) (building : Bool → List Operation) : List Operation :=
  match groups[level]? with
  | none => []
  | some g => building g.isTraced ++ joiningOperations op scale level (build g.isTraced)

/-- The operations that a script carries out on the groups that it can reach. -/
def Script.operations : Script → List Group → List Operation
  | .finish _, _ => []
  | .plain act level caught rest, groups =>
    act.operationsAt level groups ++
      (act.perform level groups).operationsAfter caught fun after ↦ operations rest after
  | .nest op inner scale level caught rest, groups =>
    absorbingOperations op scale level groups
        (fun traced ↦ (inner.run (Group.fresh traced :: groups)).finished)
        (fun traced ↦ operations inner (Group.fresh traced :: groups)) ++
      (absorbing op scale level groups fun traced ↦
        (inner.run (Group.fresh traced :: groups)).finished).operationsAfter caught
      fun after ↦ operations rest after

/-! ## Alike groups -/

/-- Groups with alike values. -/
def Group.Alike (L : Likeness) (g h : Group) : Prop := Option.Rel L.number g.value h.value

/-- Readings with alike values. -/
def Reading.Alike (L : Likeness) (r s : Reading) : Prop := L.number r.value s.value

/-- Notes of alike values or faults. -/
inductive Note.Alike (L : Likeness) : Note → Note → Prop where
  | state {v u : Option Decimal} (formula formula' : Option String)
      (value : Option.Rel L.number v u) : Alike L (.state v formula) (.state u formula')
  | fault {f g : Fault} (fault : L.fault f g) : Alike L (.fault f) (.fault g)

/-- Runs with alike outcomes, groups and notes. -/
structure Run.Alike {α β : Type} (L : Likeness) (R : α → β → Prop) (r : Run α) (s : Run β) :
    Prop where
  outcome : Fault.Rel L.fault R r.outcome s.outcome
  groups : List.Forall₂ (Group.Alike L) r.groups s.groups
  notes : List.Forall₂ (Note.Alike L) r.notes s.notes

/-- The same act, with alike operands. -/
inductive Act.Alike (L : Likeness) : Act → Act → Prop where
  | begin {a b : Argument} (operand : L.Operand a b) : Alike L (.begin a) (.begin b)
  | binary {op : BinaryOp} {a b scale : Argument} (operand : L.Operand a b) :
      Alike L (.binary op a scale) (.binary op b scale)
  | unary {op : UnaryOp} {scale : Argument} : Alike L (.unary op scale) (.unary op scale)
  | refused {why : Fault} : Alike L (.refused why) (.refused why)

/-- The same answer, with alike values of new groups. -/
inductive Answer.Alike (L : Likeness) : Answer → Answer → Prop where
  | reachable {level : ℕ} : Alike L (.reachable level) (.reachable level)
  | fresh {a b : Argument} (operand : L.Operand a b) : Alike L (.fresh a) (.fresh b)
  | other {x : Argument} : Alike L (.other x) (.other x)
  | refused {why : Fault} : Alike L (.refused why) (.refused why)

/-- The same steps, with alike operands. -/
inductive Script.Alike (L : Likeness) : Script → Script → Prop where
  | finish {a b : Answer} (answer : a.Alike L b) : Alike L (.finish a) (.finish b)
  | plain {a b : Act} {level : ℕ} {caught : Bool} {rest rest' : Script} (act : a.Alike L b)
      (rest_alike : Alike L rest rest') :
      Alike L (.plain a level caught rest) (.plain b level caught rest')
  | nest {op : BinaryOp} {inner inner' : Script} {scale : Argument} {level : ℕ} {caught : Bool}
      {rest rest' : Script} (inner_alike : Alike L inner inner') (rest_alike : Alike L rest rest') :
      Alike L (.nest op inner scale level caught rest) (.nest op inner' scale level caught rest')

theorem Act.Alike.refl (a : Act) : a.Alike L a := by
  match a with
  | .begin operand => exact .begin (.refl operand)
  | .binary _ operand _ => exact .binary (.refl operand)
  | .unary _ _ => exact .unary
  | .refused _ => exact .refused

theorem Answer.Alike.refl (a : Answer) : a.Alike L a := by
  match a with
  | .reachable _ => exact .reachable
  | .fresh operand => exact .fresh (.refl operand)
  | .other _ => exact .other
  | .refused _ => exact .refused

theorem Script.Alike.refl (s : Script) : s.Alike L s := by
  induction s with
  | finish answer => exact .finish (.refl answer)
  | plain act level caught rest ih => exact .plain (.refl act) ih
  | nest op inner scale level caught rest ih_inner ih_rest => exact .nest ih_inner ih_rest

theorem Group.alike_fresh (traced traced' : Bool) :
    (Group.fresh traced).Alike L (Group.fresh traced') := .none

namespace Group

variable {g h : Group}

theorem Alike.begin {a b : Argument} (hab : L.Operand a b) (g h : Group) :
    Fault.Rel L.fault (Group.Alike L) (g.begin a) (h.begin b) :=
  Fault.Rel.bind hab.toDecimal fun _ _ _ _ hv ↦ .ok (.some hv)

theorem Alike.reading (hgh : g.Alike L h) :
    Fault.Rel L.fault (Reading.Alike L) g.reading h.reading :=
  Fault.Rel.bind (Fault.Rel.require hgh (L.fault_refl _)) fun _ _ _ _ hv ↦ .ok hv

theorem Alike.leftOperand (hgh : g.Alike L h) (op : BinaryOp) :
    L.number (g.leftOperand op) (h.leftOperand op) := optionRel_getD hgh (L.number_refl op.seed)

theorem seeded_value (g : Group) (op : BinaryOp) : (g.seeded op).value = g.value := by
  unfold seeded
  split
  · rfl
  · simp [*]

/-- A group that was built is absorbed alike, and an operator that fails leaves the value alone. -/
theorem Alike.absorb (hgh : g.Alike L h) {op : BinaryOp} {r s : Reading} {scale : Argument}
    (hrs : r.Alike L s) (hc : L.Covers (.binary op (g.leftOperand op) r.value scale))
    (hd : L.Covers (.binary op (h.leftOperand op) s.value scale)) :
    Fault.Rel L.fault Eq (g.absorb op r scale).1 (h.absorb op s scale).1 ∧
      (g.absorb op r scale).2.Alike L (h.absorb op s scale).2 := by
  have hout := L.binary (hgh.leftOperand op) hrs hc hd
  unfold Group.absorb
  generalize op.apply (g.leftOperand op) r.value scale = x at hout ⊢
  generalize op.apply (h.leftOperand op) s.value scale = y at hout ⊢
  rcases hout with hf | hw
  · refine ⟨.error hf, ?_⟩
    rw [Group.Alike, seeded_value, seeded_value]
    exact hgh
  · exact ⟨.ok rfl, .some hw⟩

/-- Where nothing may differ in the values, groups are shown by the same text. -/
theorem Alike.shown (hgh : g.Alike L h) : L.Text g.shown h.shown := by
  intro heq
  have hvalue := optionRel_eq hgh heq
  unfold Group.shown
  rw [hvalue]

end Group

/-! ## Steps -/

theorem Act.Alike.on {a b : Act} (hab : a.Alike L b) {g h : Group} (hgh : g.Alike L h)
    (hc : ∀ o ∈ a.operations g, L.Covers o) (hd : ∀ o ∈ b.operations h, L.Covers o) :
    Fault.Rel L.fault (Group.Alike L) (a.on g) (b.on h) := by
  match hab with
  | .begin operand => exact Group.Alike.begin operand g h
  | .binary operand =>
    refine Fault.Rel.bind (Fault.Rel.require hgh (L.fault_refl _)) fun v u hv hu hvu ↦ ?_
    refine Fault.Rel.bind operand.toDecimal fun x y hx hy hxy ↦ ?_
    rw [Act.operations, hx, Fault.require_eq_ok.1 hv] at hc
    rw [Act.operations, hy, Fault.require_eq_ok.1 hu] at hd
    refine Fault.Rel.bind (L.binary hvu hxy (hc _ List.mem_cons_self) (hd _ List.mem_cons_self))
      fun w z _ _ hwz ↦ ?_
    exact .ok (.some hwz)
  | .unary =>
    refine Fault.Rel.bind (Fault.Rel.require hgh (L.fault_refl _)) fun v u hv hu hvu ↦ ?_
    rw [Act.operations, Fault.require_eq_ok.1 hv] at hc
    rw [Act.operations, Fault.require_eq_ok.1 hu] at hd
    refine Fault.Rel.bind (L.unary hvu (hc _ List.mem_cons_self) (hd _ List.mem_cons_self))
      fun w z _ _ hwz ↦ ?_
    exact .ok (.some hwz)
  | .refused => exact .error (L.fault_refl _)

theorem Act.Alike.perform {a b : Act} (hab : a.Alike L b) {level : ℕ} {gs hs : List Group}
    (hgh : List.Forall₂ (Group.Alike L) gs hs) (hc : ∀ o ∈ a.operationsAt level gs, L.Covers o)
    (hd : ∀ o ∈ b.operationsAt level hs, L.Covers o) :
    Run.Alike L Eq (a.perform level gs) (b.perform level hs) := by
  have hstep : Fault.Rel L.fault (Group.Alike L)
      ((Fault.require .noSuchGroup gs[level]?).bind a.on)
      ((Fault.require .noSuchGroup hs[level]?).bind b.on) := by
    refine Fault.Rel.bind (Fault.Rel.require (forall₂_getElem? hgh level) (L.fault_refl _))
      fun g h hg hh hgh ↦ ?_
    rw [Act.operationsAt, Fault.require_eq_ok.1 hg] at hc
    rw [Act.operationsAt, Fault.require_eq_ok.1 hh] at hd
    exact hab.on hgh hc hd
  unfold Act.perform
  generalize (Fault.require .noSuchGroup gs[level]?).bind a.on = x at hstep ⊢
  generalize (Fault.require .noSuchGroup hs[level]?).bind b.on = y at hstep ⊢
  rcases hstep with hf | hgroup
  · exact ⟨.error hf, hgh, .nil⟩
  · exact ⟨.ok rfl, forall₂_set hgh level hgroup, .nil⟩

theorem Answer.resolve_fresh {x : Argument} (h : x ≠ .absent) (groups : List Group) :
    (Answer.fresh x).resolve groups = (Group.fresh false).begin x := by
  cases x with
  | absent => exact absurd rfl h
  | _ => rfl

theorem Answer.resolve_other {x : Argument} (h : x ≠ .absent) (groups : List Group) :
    (Answer.other x).resolve groups = .error (.notAGroup x.typeName) := by
  cases x with
  | absent => exact absurd rfl h
  | _ => rfl

theorem Answer.Alike.resolve {a b : Answer} (hab : a.Alike L b) {gs hs : List Group}
    (hgh : List.Forall₂ (Group.Alike L) gs hs) :
    Fault.Rel L.fault (Group.Alike L) (a.resolve gs) (b.resolve hs) := by
  match hab with
  | .reachable => exact Fault.Rel.require (forall₂_getElem? hgh _) (L.fault_refl _)
  | .fresh operand =>
    rename_i x y
    by_cases hx : x = .absent
    · rw [hx, operand.absent_iff.1 hx]
      exact .ok .none
    · have hy : y ≠ .absent := fun hy ↦ hx (operand.absent_iff.2 hy)
      rw [resolve_fresh hx, resolve_fresh hy]
      exact Group.Alike.begin operand _ _
  | .other =>
    rename_i x
    by_cases hx : x = .absent
    · rw [hx]
      exact Fault.Rel.require (forall₂_getElem? hgh 0) (L.fault_refl _)
    · rw [resolve_other hx, resolve_other hx]
      exact .error (L.fault_refl _)
  | .refused => exact .error (L.fault_refl _)

/-! ## Running -/

namespace Run.Alike

theorem note {r s : Run Unit} (h : Run.Alike L Eq r s) (level : ℕ) :
    (r.note level).Alike L (s.note level) := by
  have hget := forall₂_getElem? h.groups level
  have hout := h.outcome
  unfold Run.note
  generalize r.outcome = x at hout ⊢
  generalize s.outcome = y at hout ⊢
  generalize r.groups[level]? = a at hget ⊢
  generalize s.groups[level]? = b at hget ⊢
  rcases hout with hf | _
  · exact .fault hf
  · rcases hget with hv | _
    · exact .state _ _ hv
    · exact .fault (L.fault_refl _)

/-- Going on after alike steps, both runs stop, or both go on and meet alike groups. -/
theorem proceed {α β : Type} {R : α → β → Prop} {r s : Run Unit} (h : Run.Alike L Eq r s)
    {level : ℕ} {caught : Bool} {next : List Group → Run α} {next' : List Group → Run β}
    {ops ops' : List Group → List Operation}
    (hc : ∀ o ∈ r.operationsAfter caught ops, L.Covers o)
    (hd : ∀ o ∈ s.operationsAfter caught ops', L.Covers o)
    (hnext : (∀ o ∈ ops r.groups, L.Covers o) → (∀ o ∈ ops' s.groups, L.Covers o) →
      Run.Alike L R (next r.groups) (next' s.groups)) :
    Run.Alike L R (r.proceed level caught next) (s.proceed level caught next') := by
  have hnote := h.note level
  have hout := h.outcome
  unfold Run.operationsAfter at hc hd
  unfold Run.proceed
  generalize r.outcome = x at hout hc ⊢
  generalize s.outcome = y at hout hd ⊢
  -- Whether the runs stop here is the same in both.
  rcases hout with hf | _
  · cases caught with
    | false => exact ⟨.error hf, h.groups, forall₂_concat h.notes hnote⟩
    | true =>
      have hrest := hnext hc hd
      exact ⟨hrest.outcome, hrest.groups, List.rel_append h.notes (.cons hnote hrest.notes)⟩
  · have hrest := hnext hc hd
    exact ⟨hrest.outcome, hrest.groups, List.rel_append h.notes (.cons hnote hrest.notes)⟩

theorem finished {r s : Run Group} (h : Run.Alike L (Group.Alike L) r s) :
    Run.Alike L (Reading.Alike L) r.finished s.finished := by
  refine ⟨Fault.Rel.bind h.outcome fun g g' _ _ hg ↦ Group.Alike.reading hg, ?_, h.notes⟩
  exact forall₂_tail h.groups

/-- Groups that are built alike are absorbed alike. -/
theorem absorbing {op : BinaryOp} {scale : Argument} {level : ℕ} {gs hs : List Group}
    (hgh : List.Forall₂ (Group.Alike L) gs hs) {build build' : Bool → Run Reading}
    {building building' : Bool → List Operation}
    (hc : ∀ o ∈ absorbingOperations op scale level gs build building, L.Covers o)
    (hd : ∀ o ∈ absorbingOperations op scale level hs build' building', L.Covers o)
    (hbuild : ∀ traced traced', (∀ o ∈ building traced, L.Covers o) →
      (∀ o ∈ building' traced', L.Covers o) →
      Run.Alike L (Reading.Alike L) (build traced) (build' traced')) :
    Run.Alike L Eq (absorbing op scale level gs build) (absorbing op scale level hs build') := by
  have hget := forall₂_getElem? hgh level
  unfold absorbingOperations at hc hd
  unfold Closure.absorbing
  generalize gs[level]? = a at hget hc ⊢
  generalize hs[level]? = b at hget hd ⊢
  rcases hget with hg | _
  · rename_i g h
    have hbuilt := hbuild g.isTraced h.isTraced
      (fun o ho ↦ hc o (List.mem_append_left _ ho)) (fun o ho ↦ hd o (List.mem_append_left _ ho))
    have hc' : ∀ o ∈ joiningOperations op scale level (build g.isTraced), L.Covers o :=
      fun o ho ↦ hc o (List.mem_append_right _ ho)
    have hd' : ∀ o ∈ joiningOperations op scale level (build' h.isTraced), L.Covers o :=
      fun o ho ↦ hd o (List.mem_append_right _ ho)
    have hget := forall₂_getElem? hbuilt.groups level
    have hout := hbuilt.outcome
    unfold joiningOperations at hc' hd'
    dsimp only
    generalize (build g.isTraced).outcome = x at hout hc' ⊢
    generalize (build' h.isTraced).outcome = y at hout hd' ⊢
    generalize (build g.isTraced).groups[level]? = a at hget hc' ⊢
    generalize (build' h.isTraced).groups[level]? = b at hget hd' ⊢
    -- The group that is joined is looked up again, for building may have changed it.
    rcases hout with hf | hr
    · exact ⟨.error hf, hbuilt.groups, hbuilt.notes⟩
    · rcases hget with hg' | _
      · obtain ⟨hjoin, hafter⟩ :=
          hg'.absorb hr (hc' _ List.mem_cons_self) (hd' _ List.mem_cons_self)
        exact ⟨hjoin, forall₂_set hbuilt.groups level hafter, hbuilt.notes⟩
      · exact ⟨.error (L.fault_refl _), hbuilt.groups, hbuilt.notes⟩
  · exact ⟨.error (L.fault_refl _), hgh, .nil⟩

end Run.Alike

/-- Alike callables leave alike groups behind, and answer alike. -/
theorem Script.Alike.run {s t : Script} (hst : s.Alike L t) {gs hs : List Group}
    (hgh : List.Forall₂ (Group.Alike L) gs hs) (hc : ∀ o ∈ s.operations gs, L.Covers o)
    (hd : ∀ o ∈ t.operations hs, L.Covers o) :
    Run.Alike L (Group.Alike L) (s.run gs) (t.run hs) := by
  induction hst generalizing gs hs with
  | finish answer => exact ⟨answer.resolve hgh, hgh, .nil⟩
  | plain act _ ih =>
    rw [Script.operations] at hc hd
    have hstep := act.perform hgh (fun o ho ↦ hc o (List.mem_append_left _ ho))
      (fun o ho ↦ hd o (List.mem_append_left _ ho))
    exact hstep.proceed (fun o ho ↦ hc o (List.mem_append_right _ ho))
      (fun o ho ↦ hd o (List.mem_append_right _ ho)) fun hc hd ↦ ih hstep.groups hc hd
  | nest _ _ ih_inner ih_rest =>
    rw [Script.operations] at hc hd
    have hstep := Run.Alike.absorbing hgh (fun o ho ↦ hc o (List.mem_append_left _ ho))
      (fun o ho ↦ hd o (List.mem_append_left _ ho)) fun traced traced' hc hd ↦
        (ih_inner (.cons (Group.alike_fresh traced traced') hgh) hc hd).finished
    exact hstep.proceed (fun o ho ↦ hc o (List.mem_append_right _ ho))
      (fun o ho ↦ hd o (List.mem_append_right _ ho)) fun hc hd ↦ ih_rest hstep.groups hc hd

/-- What is read of alike callables is alike, whichever of the two is traced. -/
theorem Script.Alike.evaluate {s t : Script} (hst : s.Alike L t) {gs hs : List Group}
    (hgh : List.Forall₂ (Group.Alike L) gs hs) {traced traced' : Bool}
    (hc : ∀ o ∈ s.operations (.fresh traced :: gs), L.Covers o)
    (hd : ∀ o ∈ t.operations (.fresh traced' :: hs), L.Covers o) :
    Run.Alike L (Reading.Alike L) (s.evaluate traced gs) (t.evaluate traced' hs) :=
  (hst.run (.cons (Group.alike_fresh traced traced') hgh) hc hd).finished

end Closure

end ChainedDecimal
