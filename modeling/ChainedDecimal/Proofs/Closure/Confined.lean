import ChainedDecimal.Proofs.Alike.Closure
import ChainedDecimal.Proofs.Closure.Failures

/-!
# Confined callables

A callable may act on the groups around it, and may answer with one of them. A confined callable
does neither, and the callables in it reach no further than its own group. Such a callable is as
good as its value. It gives the same wherever it is run, and changes nothing there.

The groups that are in reach are a list with the own groups in front, those of the callable and of
the callables in it that are being run. What stands behind them in the list is carried along and
never looked at: `Script.run_append` says so, by induction on the callable.

## Operators

An operator whose operand is a confined callable differs from the plain operator with its value in
nothing but the formula. On a group that has no value the operator starts from its seed, and so it
does on a group that was begun with the seed.
-/

namespace ChainedDecimal

namespace Closure

/-! ## What is in reach -/

/-- The answer is none of the reachable groups from the `n`th on. -/
def Answer.within : Answer → ℕ → Bool
  | .reachable level, n => decide (level < n)
  | _, _ => true

/-- No step acts on one of the reachable groups from the `n`th on, and none of them is an answer. A
callable for an operand has one more group in front. -/
def Script.within : Script → ℕ → Bool
  | .finish answer, n => answer.within n
  | .plain _ level _ rest, n => decide (level < n) && rest.within n
  | .nest _ inner _ level _ rest, n =>
    decide (level < n) && (inner.within (n + 1) && rest.within n)

/-- The callable reaches no group but its own, and the callables in it reach none beyond that. -/
def Script.Confined (s : Script) : Prop := s.within 1 = true

instance (s : Script) : Decidable s.Confined := inferInstanceAs (Decidable (_ = _))

variable {groups own around : List Group} {level n : ℕ} {caught : Bool}

theorem Script.within_before {d : Deed} {rest : Script} :
    (d.before level caught rest).within n = true ↔
      level < n ∧ (∀ inner, d.inner? = some inner → inner.within (n + 1) = true) ∧
        rest.within n = true := by
  cases d with
  | plain act => simp [Deed.before, within, Deed.inner?]
  | nest op inner scale => simp [Deed.before, within, Deed.inner?]

/-! ## Groups that are carried along -/

/-- The run with more groups behind those that it left. -/
def Run.carrying {α : Type} (r : Run α) (around : List Group) : Run α :=
  { r with groups := r.groups ++ around }

namespace Run

theorem note_carrying {r : Run Unit} (h : level < r.groups.length) :
    (r.carrying around).note level = r.note level := by
  rw [note, note, carrying, List.getElem?_append_left h]

theorem proceed_carrying {r : Run Unit} (h : level < r.groups.length)
    {next : List Group → Run Group}
    (hnext : next (r.groups ++ around) = (next r.groups).carrying around) :
    (r.carrying around).proceed level caught next =
      (r.proceed level caught next).carrying around := by
  have hnote : (r.carrying around).note level = r.note level := note_carrying h
  have hgroups : (r.carrying around).groups = r.groups ++ around := rfl
  have houtcome : (r.carrying around).outcome = r.outcome := rfl
  unfold proceed
  rw [hnote, hgroups, hnext, houtcome]
  cases r.outcome with
  | error f => cases caught <;> rfl
  | ok a => rfl

theorem finished_carrying {r : Run Group} (h : r.groups ≠ []) :
    (r.carrying around).finished = r.finished.carrying around := by
  rw [finished, finished, carrying, carrying, List.tail_append_of_ne_nil h]

end Run

theorem Act.perform_append (act : Act) (h : level < own.length) :
    act.perform level (own ++ around) = (act.perform level own).carrying around := by
  rw [perform, perform, List.getElem?_append_left h]
  cases (Fault.require .noSuchGroup own[level]?).bind act.on with
  | error f => rfl
  | ok g =>
    dsimp only
    rw [List.set_append_left _ _ h]
    rfl

theorem absorbing_append {op : BinaryOp} {scale : Argument} (h : level < own.length)
    {build build' : Bool → Run Reading}
    (hbuild : ∀ traced, build' traced = (build traced).carrying around)
    (hlength : ∀ traced, (build traced).groups.length = own.length) :
    absorbing op scale level (own ++ around) build' =
      (absorbing op scale level own build).carrying around := by
  rw [absorbing, absorbing, List.getElem?_append_left h]
  cases own[level]? with
  | none => rfl
  | some g =>
    have hlt : level < (build g.isTraced).groups.length := by rw [hlength]; exact h
    have hget : ((build g.isTraced).carrying around).groups[level]? =
        (build g.isTraced).groups[level]? := List.getElem?_append_left hlt
    have houtcome : ((build g.isTraced).carrying around).outcome =
        (build g.isTraced).outcome := rfl
    dsimp only
    rw [hbuild, hget, houtcome]
    cases (build g.isTraced).outcome with
    | error f => rfl
    | ok r =>
      cases (build g.isTraced).groups[level]? with
      | none => rfl
      | some g' =>
        dsimp only [Run.carrying]
        rw [List.set_append_left _ _ hlt]

/-- A deed does the same to its group whatever stands behind the groups in reach. -/
theorem Deed.perform_append {d : Deed} (h : level < own.length)
    (hinner : ∀ inner, d.inner? = some inner → ∀ traced,
      inner.evaluate traced (own ++ around) = (inner.evaluate traced own).carrying around) :
    d.perform level (own ++ around) = (d.perform level own).carrying around := by
  cases d with
  | plain act => exact act.perform_append h
  | nest op inner scale =>
    exact absorbing_append h (hinner inner rfl) fun traced ↦ inner.length_evaluate traced own

theorem Answer.resolve_append {answer : Answer} (h : answer.within own.length = true)
    (hown : own ≠ []) : answer.resolve (own ++ around) = answer.resolve own := by
  match answer with
  | .reachable level => rw [resolve, resolve, List.getElem?_append_left (of_decide_eq_true h)]
  | .fresh x =>
    by_cases hx : x = .absent
    · rw [hx]
      rfl
    · rw [resolve_fresh hx, resolve_fresh hx]
  | .other x =>
    by_cases hx : x = .absent
    · rw [hx, resolve, resolve, List.getElem?_append_left (List.length_pos_iff.2 hown)]
    · rw [resolve_other hx, resolve_other hx]
  | .refused why => rfl

theorem evaluate_append {s : Script} {traced : Bool}
    (h : s.run (.fresh traced :: own ++ around) =
      (s.run (.fresh traced :: own)).carrying around) :
    s.evaluate traced (own ++ around) = (s.evaluate traced own).carrying around := by
  have hne : (s.run (.fresh traced :: own)).groups ≠ [] := by
    rw [← List.length_pos_iff, s.length_run]
    exact Nat.succ_pos _
  rw [Script.evaluate, Script.evaluate, ← Run.finished_carrying hne, ← h, List.cons_append]

/-- **What is out of reach is carried along.** -/
theorem Script.run_append (s : Script) (h : s.within own.length = true) (hown : own ≠ [])
    (around : List Group) : s.run (own ++ around) = (s.run own).carrying around := by
  induction s using Script.deed_induction generalizing own with
  | finish answer =>
    show (⟨answer.resolve (own ++ around), own ++ around, []⟩ : Run Group) = _
    rw [Answer.resolve_append h hown]
    rfl
  | before d level caught rest ih_inner ih =>
    obtain ⟨hlevel, hinner, hrest⟩ := within_before.1 h
    have hlength := d.length_perform level own
    have hperform : d.perform level (own ++ around) = (d.perform level own).carrying around :=
      Deed.perform_append hlevel fun inner heq traced ↦
        evaluate_append (ih_inner inner heq (hinner inner heq) (List.cons_ne_nil _ _))
    have hafter : (d.perform level own).groups ≠ [] := by
      rw [← List.length_pos_iff, hlength]
      exact List.length_pos_iff.2 hown
    rw [Deed.run_before, Deed.run_before, hperform]
    exact Run.proceed_carrying (by rwa [hlength]) (ih (by rwa [hlength]) hafter)

/-! ## What a confined callable gives -/

/-- The value that a callable gives where nothing is around it, or the fault. -/
def Script.result (s : Script) : Except Fault Decimal :=
  (s.evaluate false []).outcome.map Reading.value

namespace Script.Confined

variable {s : Script} (h : s.Confined)

include h

/-- What is around the callable has no part in what it gives, and is there afterwards. -/
theorem evaluate_eq (traced : Bool) (around : List Group) :
    s.evaluate traced around = { s.evaluate traced [] with groups := around } := by
  have hnil : (s.evaluate traced []).groups = [] :=
    List.length_eq_zero_iff.1 (s.length_evaluate traced [])
  have hwithin : s.within [Group.fresh traced].length = true := h
  have hrun := s.run_append hwithin (List.cons_ne_nil _ _) around
  have happend : s.evaluate traced ([] ++ around) = (s.evaluate traced []).carrying around :=
    evaluate_append hrun
  rw [List.nil_append] at happend
  rw [happend, Run.carrying, hnil, List.nil_append]

/-- Whether it is traced has none in the value or the fault. -/
theorem map_value_outcome (traced : Bool) (around : List Group) :
    (s.evaluate traced around).outcome.map Reading.value = s.result := by
  have hsame : Run.Alike .same (Reading.Alike .same) (s.evaluate traced [])
      (s.evaluate false []) :=
    (Script.Alike.refl s).evaluate .nil (fun _ _ ↦ trivial) (fun _ _ ↦ trivial)
  have hout := hsame.outcome
  rw [h.evaluate_eq, result]
  generalize (s.evaluate traced []).outcome = x at hout ⊢
  generalize (s.evaluate false []).outcome = y at hout ⊢
  rcases hout with hf | hr
  · exact congrArg Except.error hf
  · exact congrArg Except.ok hr

/-- Carrying out an operator with the callable is building a group first, and then joining it. -/
theorem perform_nest {op : BinaryOp} {scale : Argument} {g : Group}
    (hg : groups[level]? = some g) :
    (Deed.nest op s scale).perform level groups =
      match (s.evaluate g.isTraced []).outcome with
      | .error f => ⟨.error f, groups, (s.evaluate g.isTraced []).notes⟩
      | .ok r => ⟨(g.absorb op r scale).1, groups.set level (g.absorb op r scale).2,
          (s.evaluate g.isTraced []).notes⟩ := by
  rw [Deed.perform, absorbing, hg]
  dsimp only
  rw [h.evaluate_eq]
  dsimp only
  rw [hg]
  cases (s.evaluate g.isTraced []).outcome <;> rfl

end Script.Confined

/-! ## Operators with a confined callable -/

/-- The operators end alike: with the same fault or none, and with the same values in all groups. -/
structure Run.SameValues (r r' : Run Unit) : Prop where
  outcome_eq : r.outcome = r'.outcome
  values_eq : r.groups.map Group.value = r'.groups.map Group.value

/-- The operators end alike, and the formulas of all groups are the same too. -/
structure Run.SameStates (r r' : Run Unit) : Prop extends Run.SameValues r r' where
  formulas_eq : r.groups.map Group.formula? = r'.groups.map Group.formula?

/-- The number that an operator starts from. -/
def seedNumber : BinaryOp → Int
  | .add | .subtract => 0
  | .multiply | .divide => 1

/-- The group that was begun with the seed. -/
def Group.begunWith (g : Group) (op : BinaryOp) : Group :=
  ⟨some op.seed, g.trace.map fun _ ↦ .ofValue? (some op.seed)⟩

/-- A seed that is recorded for want of a value stands where the group would begin with it. -/
theorem Group.absorb_begunWith {g : Group} {op : BinaryOp} {r : Reading} {scale : Argument}
    (hnone : g.value = none) (hempty : ∀ text ∈ g.formula?, text = "")
    (hok : (g.absorb op r scale).1 = .ok ()) :
    ∃ x y, g.absorb op r scale = (.ok (), x) ∧ (g.begunWith op).absorb op r scale = (.ok (), y) ∧
      x.value = y.value ∧ x.formula? = y.formula? := by
  have hleft : g.leftOperand op = (g.begunWith op).leftOperand op := by
    rw [leftOperand, hnone]
    rfl
  have hseeded : (g.begunWith op).seeded op = g.begunWith op := rfl
  unfold absorb at hok ⊢
  rw [hleft] at hok ⊢
  cases happly : op.apply ((g.begunWith op).leftOperand op) r.value scale with
  | error f =>
    rw [happly] at hok
    cases hok
  | ok w =>
    refine ⟨_, _, rfl, rfl, rfl, ?_⟩
    rw [hseeded, seeded, hnone, begunWith]
    cases ht : g.trace with
    | none => simp [formula?]
    | some t =>
      have hrender : t.render = "" := hempty _ (by rw [formula?, ht]; rfl)
      have hnothing : Trace.empty.render = "" := rfl
      simp [formula?, Trace.group, Trace.operand, Trace.ofValue?, hrender, hnothing]

theorem perform_begin_seedNumber {g : Group} (hg : groups[level]? = some g) (op : BinaryOp) :
    (Act.begin (.int (seedNumber op))).perform level groups =
      ⟨.ok (), groups.set level (g.begunWith op), []⟩ := by
  have hbegin : (Act.begin (.int (seedNumber op))).on g = .ok (g.begunWith op) := by
    cases op <;> rfl
  have hon : (Fault.require .noSuchGroup groups[level]?).bind
      (Act.begin (.int (seedNumber op))).on = .ok (g.begunWith op) := by
    rw [hg]
    exact hbegin
  rw [Act.perform, hon]

/-- On a group with a value a plain operator does what its calculation says. -/
theorem perform_binary {g : Group} {u : Decimal} (hg : groups[level]? = some g)
    (hu : g.value = some u) (op : BinaryOp) (v : Decimal) (scale : Argument) :
    (Act.binary op (.decimal v) scale).perform level groups =
      match op.apply u v scale with
      | .error f => ⟨.error f, groups, []⟩
      | .ok w => ⟨.ok (), groups.set level
          ⟨some w, g.trace.map fun t ↦ t.binary op (.decimal v) scale⟩, []⟩ := by
  have hon : (Fault.require .noSuchGroup groups[level]?).bind
      (Act.binary op (.decimal v) scale).on = (op.apply u v scale).map fun w ↦
        ⟨some w, g.trace.map fun t ↦ t.binary op (.decimal v) scale⟩ := by
    rw [hg]
    show g.binary op (.decimal v) scale = _
    rw [g.binary_eq hu, hu]
    rfl
  rw [Act.perform, hon]
  cases op.apply u v scale <;> rfl

/-- A callable that is as good as its value: it changes nothing around it, gives the same anywhere,
and as an operand stands for the value. -/
structure Script.Transparent (s : Script) : Prop where
  /-- The groups around the callable are the same afterwards. -/
  groups_eq : ∀ traced around, (s.evaluate traced around).groups = around
  /-- An operator with the callable changes no group but the one that it is called on. -/
  others_eq : ∀ {op : BinaryOp} {scale : Argument} {level other : ℕ} {groups : List Group},
    level ≠ other → ((Deed.nest op s scale).perform level groups).groups[other]? = groups[other]?
  /-- The value or the fault is the same wherever the callable is run, traced or not. -/
  result_eq : ∀ traced around, (s.evaluate traced around).outcome.map Reading.value = s.result
  /-- On a group that has a value an operator with the callable ends as it does with the value of
  the callable. -/
  group_eq : ∀ {op : BinaryOp} {scale : Argument} {level : ℕ} {groups : List Group} {g : Group}
    {v : Decimal}, s.result = .ok v → groups[level]? = some g → g.value.isSome = true →
      Run.SameValues ((Deed.nest op s scale).perform level groups)
        ((Act.binary op (.decimal v) scale).perform level groups)
  /-- So it does on a chain. -/
  chain_eq : ∀ {op : BinaryOp} {scale : Argument} {c : Chain} {v : Decimal}, s.result = .ok v →
    (c.nest op s scale).1.map Chain.value = (c.binary op (.decimal v) scale).map Chain.value
  /-- On a group without a value, and with nothing in its formula, an operator that succeeds ends as
  it does on the group that was begun with its seed. -/
  seed_eq : ∀ {op : BinaryOp} {scale : Argument} {level : ℕ} {groups : List Group} {g : Group},
    groups[level]? = some g → g.value = none → (∀ text ∈ g.formula?, text = "") →
      ((Deed.nest op s scale).perform level groups).outcome = .ok () →
        ∃ begun, (Act.begin (.int (seedNumber op))).perform level groups = ⟨.ok (), begun, []⟩ ∧
          Run.SameStates ((Deed.nest op s scale).perform level groups)
            ((Deed.nest op s scale).perform level begun)

namespace Script.Confined

variable {s : Script} {op : BinaryOp} {scale : Argument} {g : Group} {u v : Decimal}

/-- The reading that an operator takes from a callable with a value. -/
theorem exists_reading (h : s.Confined) (hv : s.result = .ok v) (traced : Bool) :
    ∃ r, (s.evaluate traced []).outcome = .ok r ∧ r.value = v :=
  Fault.map_eq_ok.1 ((h.map_value_outcome traced []).trans hv)

theorem sameValues_binary (h : s.Confined) (hv : s.result = .ok v) (hg : groups[level]? = some g)
    (hu : g.value = some u) :
    Run.SameValues ((Deed.nest op s scale).perform level groups)
      ((Act.binary op (.decimal v) scale).perform level groups) := by
  obtain ⟨r, hr, rfl⟩ := h.exists_reading hv g.isTraced
  have hleft : g.leftOperand op = u := by rw [Group.leftOperand, hu, Option.getD_some]
  rw [h.perform_nest hg, hr, perform_binary hg hu]
  dsimp only
  rw [Group.absorb, hleft]
  cases op.apply u r.value scale with
  | error f =>
    refine ⟨rfl, ?_⟩
    have hsame : groups.set level (g.seeded op) = groups := by
      obtain ⟨hlt, rfl⟩ := List.getElem?_eq_some_iff.1 hg
      rw [Group.seeded, hu]
      exact List.set_getElem_self hlt
    exact congrArg _ hsame
  | ok w =>
    refine ⟨rfl, ?_⟩
    rw [List.map_set, List.map_set]

theorem map_value_nest (h : s.Confined) (hv : s.result = .ok v) (c : Chain) :
    (c.nest op s scale).1.map Chain.value =
      (c.binary op (.decimal v) scale).map Chain.value := by
  obtain ⟨r, hr, rfl⟩ := h.exists_reading hv c.isTraced
  have hnest : (c.nest op s scale).1 = c.absorb op r scale := by
    rw [Chain.nest, hr]
    rfl
  rw [hnest]
  show ((op.extend c.value (.finite r.value) scale).bind _).map _ =
    ((op.extend c.value (.finite r.value) scale).bind _).map _
  cases op.extend c.value (.finite r.value) scale <;> rfl

theorem sameStates_begunWith (h : s.Confined) (hg : groups[level]? = some g)
    (hnone : g.value = none) (hempty : ∀ text ∈ g.formula?, text = "")
    (hok : ((Deed.nest op s scale).perform level groups).outcome = .ok ()) :
    Run.SameStates ((Deed.nest op s scale).perform level groups)
      ((Deed.nest op s scale).perform level (groups.set level (g.begunWith op))) := by
  have hbegun : (groups.set level (g.begunWith op))[level]? = some (g.begunWith op) :=
    List.getElem?_set_self (List.getElem?_eq_some_iff.1 hg).1
  have htraced : (g.begunWith op).isTraced = g.isTraced := Option.isSome_map
  rw [h.perform_nest hg] at hok ⊢
  rw [h.perform_nest hbegun, htraced]
  cases hr : (s.evaluate g.isTraced []).outcome with
  | error f =>
    rw [hr] at hok
    cases hok
  | ok r =>
    rw [hr] at hok
    dsimp only at hok ⊢
    obtain ⟨x, y, hx, hy, hvalue, hformula⟩ := Group.absorb_begunWith hnone hempty hok
    rw [hx, hy, List.set_set]
    refine ⟨⟨rfl, ?_⟩, ?_⟩
    · rw [List.map_set, List.map_set, hvalue]
    · rw [List.map_set, List.map_set, hformula]

/-- **A confined callable is as good as its value.** -/
theorem transparent (h : s.Confined) : s.Transparent where
  groups_eq traced around := by rw [h.evaluate_eq]
  others_eq hne := Deed.getElem?_perform_of hne fun inner g hinner _ ↦ by
    cases hinner
    rw [h.evaluate_eq]
  result_eq := h.map_value_outcome
  group_eq hv hg hsome := by
    obtain ⟨u, hu⟩ := Option.isSome_iff_exists.1 hsome
    exact h.sameValues_binary hv hg hu
  chain_eq hv := h.map_value_nest hv _
  seed_eq hg hnone hempty hok :=
    ⟨_, perform_begin_seedNumber hg _, h.sameStates_begunWith hg hnone hempty hok⟩

end Script.Confined

/-- The callable catches a division by zero, and goes on from the value before it. The callable for
its last operand first multiplies the group around it. -/
def goingOn : Script :=
  .plain (.begin (.int 4)) 0 false <|
    .nest .divide (.plain (.begin (.int 0)) 0 false .idle) (.int 2) 0 true <|
      .nest .add (.plain (.binary .multiply (.int 3) .absent) 1 false
          (.plain (.begin (.int 2)) 0 false .idle)) .absent 0 false .idle

theorem transparent_goingOn :
    goingOn.Confined ∧ goingOn.result = .ok (.ofInt 14) ∧ goingOn.Transparent := by
  have hconfined : goingOn.Confined := by decide
  exact ⟨hconfined, by decide, hconfined.transparent⟩

end Closure

end ChainedDecimal
