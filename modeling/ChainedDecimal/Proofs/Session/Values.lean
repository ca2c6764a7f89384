import ChainedDecimal.Proofs.Closure.Values
import ChainedDecimal.Proofs.Pool.Representable
import ChainedDecimal.Proofs.Session.Beginnings
import ChainedDecimal.Proofs.Session.Pools

/-!
# All values of a session can be represented

Operands are finite, and an operator that is given finite operands gives a finite result within the
limits, or fails. So whatever is calculated in a session can be represented, and of the operands
only those matter that become values as they are: the ones that chains, scopes and groups are begun
with. If these can be represented, so can every value of a bracketed chain, of a group, of a chain
with callables that goes back to a beginning, and every entry of a pool.

## Groups inside callables

A group inside a callable is gone when the command is answered. What it held is seen in the moments
of the command, which are the deeds carried out meanwhile, each with the groups in its reach. A
request to a group that stands alone is a callable of one deed.

## Pools

Entries are formed by the pool itself, which settles what it is asked for. So nothing has to be
known of the operands for them, nor of what a pool is asked for by its name.
-/

namespace ChainedDecimal

/-! ## The pools of the settings -/

namespace Settings

variable {s : Settings} {ref : PoolRef} {q : Pool}

/-- The entries of all pools can be represented. -/
def PoolsRepresentable (s : Settings) : Prop := ∀ ref p, s.pool? ref = some p → p.Representable

theorem poolsRepresentable_initial : initial.PoolsRepresentable := by
  intro ref p hp
  cases ref with
  | standard =>
    cases hp
    exact KeepingPool.representable_new _
  | created i => cases hp
  | unnamed =>
    cases hp
    trivial

namespace PoolsRepresentable

theorem installedPool (h : s.PoolsRepresentable) : s.installedPool.Representable := by
  unfold Settings.installedPool
  cases hp : s.pool? s.installed with
  | none => trivial
  | some p => exact h _ p hp

theorem setPool (h : s.PoolsRepresentable) (hq : q.Representable) (ref : PoolRef) :
    (s.setPool ref q).PoolsRepresentable := by
  intro other p hp
  by_cases hne : other = ref
  · subst hne
    match other, q, hp with
    | .standard, .keeping k, hp =>
      cases hp
      exact hq
    | .standard, .plain, hp | .standard, .disabled, hp | .unnamed, _, hp => exact h _ p hp
    | .created i, q, hp =>
      rcases List.mem_or_eq_of_mem_set (List.mem_of_getElem? hp) with hold | rfl
      · obtain ⟨j, hj⟩ := List.mem_iff_getElem?.1 hold
        exact h (.created j) p hj
      · exact hq
  · rw [pool?_setPool_of_ne hne] at hp
    exact h other p hp

theorem create (h : s.PoolsRepresentable) (hq : q.Representable) :
    (s.create q).PoolsRepresentable := by
  intro ref p hp
  cases ref with
  | standard => exact h .standard p hp
  | unnamed => exact h .unnamed p hp
  | created i =>
    rcases List.mem_append.1 (List.mem_of_getElem? hp) with hold | hnew
    · obtain ⟨j, hj⟩ := List.mem_iff_getElem?.1 hold
      exact h (.created j) p hj
    · rwa [List.mem_singleton.1 hnew]

end PoolsRepresentable

end Settings

namespace Session

open Closure

variable {P : Decimal → Prop} {s t : Session} {command : Command} {cs : List Command}

theorem representable_poolOfSort {sort : PoolSort} {p : Pool} {policy : Option PoolPolicy}
    (h : poolOfSort sort = .ok (p, policy)) : p.Representable := by
  cases sort with
  | plain | disabled =>
    cases h
    trivial
  | keeping maxScale bound =>
    obtain ⟨policy, -, heq⟩ := Fault.map_eq_ok.1 h
    cases heq
    exact KeepingPool.representable_new policy
  | refused why => cases h

theorem poolsRepresentable_step (hs : s.settings.PoolsRepresentable) (command : Command) :
    (s.step command).1.settings.PoolsRepresentable := by
  have hstep := s.settingsStep command
  generalize (s.step command).2.outcome = outcome at hstep
  generalize (s.step command).1.settings = settings at hstep ⊢
  generalize (s.step command).2.events = events at hstep
  cases hstep with
  | same => exact hs
  | pooled _ pooled_eq =>
    obtain ⟨⟨y, q⟩, hget, heq⟩ := Fault.map_eq_ok.1 pooled_eq
    cases heq
    exact hs.setPool (hs.installedPool.getNumeral hget) _
  | asked _ pool_eq answer_eq => exact hs.setPool ((hs _ _ pool_eq).answer answer_eq) _
  | cleared => exact hs.setPool (.clear _) _
  | clearedInstalled => exact hs.setPool (.clear _) _
  | created sort_eq => exact hs.create (representable_poolOfSort sort_eq)
  | administered _ standard_eq created_eq =>
    intro ref p hp
    rw [Settings.pool?_congr standard_eq created_eq] at hp
    exact hs ref p hp

theorem poolsRepresentable_run (hs : s.settings.PoolsRepresentable) (cs : List Command) :
    (s.run cs).1.settings.PoolsRepresentable := by
  induction cs generalizing s with
  | nil => exact hs
  | cons command cs ih => exact ih (poolsRepresentable_step hs command)

/-! ## Groups that stand alone -/

/-- The deed that a request does to the group. -/
def GroupRequest.deed? : GroupRequest → Option Deed
  | .join op (.plain x) scale => some (.plain (.binary op x scale))
  | .join op (.script inner) scale => some (.nest op inner scale)
  | .act a => some (.plain a)
  | .shown | .refused _ => none

/-- What a command can do to the groups that stand alone. -/
inductive GroupStep (s : Session) : Command → List Group → Prop where
  /-- Nothing. -/
  | same {command : Command} : GroupStep s command s.groups
  /-- Create one. -/
  | created {traced : Bool} : GroupStep s (.newGroup traced) (s.groups ++ [.fresh traced])
  /-- Do a deed to one of them. -/
  | acted {on : String} {request : GroupRequest} {i : ℕ} {g : Group} {d : Deed}
      (group_eq : s.group? on = some g) (deed_eq : request.deed? = some d) :
      GroupStep s (.group on request) (s.groups.set i ((d.perform 0 [g]).groups.head?.getD g))

/-- Whether a command is about groups that stand alone. -/
def Command.onGroups : Command → Bool
  | .newGroup _ | .group _ _ => true
  | _ => false

/-- All other commands leave the groups as they are. -/
theorem groups_step (h : command.onGroups = false) : (s.step command).1.groups = s.groups := by
  cases hcalc : command.isCalculation with
  | false =>
    obtain ⟨settings, traces, heq⟩ := exists_administered hcalc s
    rw [heq]
  | true =>
    cases command with
    | beginBracket initial =>
      rw [step, beginBracket]
      split <;> rfl
    | scope on request => exact (sameClosures_onScope on request).groups
    | beginChain initial =>
      rw [step, beginChain]
      split <;> rfl
    | chain on request =>
      rw [step, onChain]
      split
      · rfl
      · rename_i c hc
        cases request with
        | join op operand scale =>
          rw [askChain]
          cases (c.join op operand scale).1 <;> rfl
        | change op scale =>
          rw [askChain]
          cases c.unary op scale <;> rfl
        | result => exact (sameClosures_read _ _ _ _).groups
        | refused why => rfl
    | compareChains a b =>
      rw [step, compareChains]
      split <;> rfl
    | newChain value formula | evaluate script traced => rfl
    | calculate c =>
      rw [step, calculate]
      split <;> rfl
    | newGroup traced => cases h
    | group on request => cases h
    | _ => cases hcalc

theorem groupStep (s : Session) (command : Command) :
    GroupStep s command (s.step command).1.groups := by
  cases hon : command.onGroups with
  | false =>
    rw [groups_step hon]
    exact .same
  | true =>
    cases command with
    | newGroup traced => exact .created
    | group on request =>
      rw [step, onGroup]
      cases hplace : placeOf? "g" s.groups.length on with
      | none => exact .same
      | some i =>
        cases hget : s.groups[i]? with
        | none => simp only [hget]; exact .same
        | some g =>
          have hg : s.group? on = some g := by rw [group?, hplace]; exact hget
          simp only [hget]
          cases request with
          | join op operand scale =>
            cases operand with
            | plain x => exact .acted (d := .plain (.binary op x scale)) hg rfl
            | script inner => exact .acted (d := .nest op inner scale) hg rfl
          | act a => exact .acted (d := .plain a) hg rfl
          | shown | refused why => exact .same
    | _ => cases hon

/-! ## Values that come and go -/

/-- The operands of a command that become values as they are. -/
def Command.firsts : Command → List Argument
  | .beginBracket x | .beginChain x => [x]
  | .scope _ (.call call) => call.firsts
  | .chain _ (.join _ (.script inner) _) | .evaluate inner _ => inner.firsts
  | .group _ request => request.deed?.toList.flatMap Deed.firsts
  | _ => []

/-- What is done to groups while a command is answered, in callables and outside of them. -/
def moments (s : Session) : Command → List Moment
  | .chain on (.join _ (.script inner) _) =>
    (s.chain? on).toList.flatMap fun c ↦ inner.moments [.fresh c.isTraced]
  | .evaluate inner traced => inner.moments [.fresh traced]
  | .group on request =>
    (s.group? on).toList.flatMap fun g ↦
      request.deed?.toList.flatMap fun d ↦ (d.before 0 false .idle).moments [g]
  | _ => []

/-- The values of bracketed chains and of groups have a property. -/
structure ValuesHold (P : Decimal → Prop) (s : Session) : Prop where
  /-- So have those of all scopes, open or closed. -/
  brackets : s.BracketValues P
  /-- So have those of all groups that stand alone. -/
  groups : ∀ g ∈ s.groups, g.Holds P

theorem mem_of_group? {on : String} {g : Group} (h : s.group? on = some g) : g ∈ s.groups := by
  obtain ⟨i, -, hi⟩ := Option.bind_eq_some_iff.1 h
  exact List.mem_of_getElem? hi

theorem satisfies_of_deed? {on : String} {request : GroupRequest} {d : Deed}
    (hfirsts : ∀ x ∈ Command.firsts (.group on request), x.Satisfies P)
    (hd : request.deed? = some d) : ∀ x ∈ d.firsts, x.Satisfies P := by
  intro x hx
  refine hfirsts x ?_
  rw [Command.firsts, hd]
  exact List.mem_flatMap.2 ⟨d, List.mem_singleton_self d, hx⟩

/-- All that a deed does to a group that stands alone keeps the property. -/
theorem holds_deed (hP : ∀ d : Decimal, d.Fits → P d) {d : Deed} {g : Group} (hg : g.Holds P)
    (hfirsts : ∀ x ∈ d.firsts, x.Satisfies P) :
    ∀ m ∈ (d.before 0 false .idle).moments [g], m.Holds P := by
  refine (Script.holds_run hP (fun x hx ↦ ?_) (List.forall_mem_singleton.2 hg)).2
  rw [Deed.firsts_before] at hx
  rcases List.mem_append.1 hx with hx | hx
  · exact hfirsts x hx
  · cases hx

theorem ValuesHold.group (hs : s.ValuesHold P) (hP : ∀ d : Decimal, d.Fits → P d) {on : String}
    {request : GroupRequest} {g : Group} {d : Deed} (hg : s.group? on = some g)
    (hd : request.deed? = some d)
    (hfirsts : ∀ x ∈ Command.firsts (.group on request), x.Satisfies P) :
    ∀ m ∈ (d.before 0 false .idle).moments [g], m.Holds P :=
  holds_deed hP (hs.groups g (mem_of_group? hg)) (satisfies_of_deed? hfirsts hd)

/-- At every moment of a command the groups have the property if they had it before. -/
theorem ValuesHold.moments (hs : s.ValuesHold P) (hP : ∀ d : Decimal, d.Fits → P d)
    (hfirsts : ∀ x ∈ command.firsts, x.Satisfies P) : ∀ m ∈ s.moments command, m.Holds P := by
  have hscript : ∀ {inner : Script} (traced : Bool), (∀ x ∈ inner.firsts, x.Satisfies P) →
      ∀ m ∈ inner.moments [.fresh traced], m.Holds P := fun traced hinner ↦
    (Script.holds_run hP hinner (List.forall_mem_singleton.2 (Group.holds_fresh traced))).2
  intro m hm
  cases command with
  | chain on request =>
    cases request with
    | join op operand scale =>
      cases operand with
      | plain x => cases hm
      | script inner =>
        obtain ⟨c, -, hm⟩ := List.mem_flatMap.1 hm
        exact hscript c.isTraced hfirsts m hm
    | _ => cases hm
  | evaluate inner traced => exact hscript traced hfirsts m hm
  | group on request =>
    obtain ⟨g, hg, hm⟩ := List.mem_flatMap.1 hm
    obtain ⟨d, hd, hm⟩ := List.mem_flatMap.1 hm
    exact hs.group hP (Option.mem_toList.1 hg) (Option.mem_toList.1 hd) hfirsts m hm
  | _ => cases hm

/-- A command keeps the property if the values that it begins with have it. -/
theorem Numbered.valuesHold_step (h : s.Numbered) (hP : ∀ d : Decimal, d.Fits → P d)
    (hs : s.ValuesHold P) (hfirsts : ∀ x ∈ command.firsts, x.Satisfies P) :
    (s.step command).1.ValuesHold P := by
  constructor
  · refine h.bracketValues_step hP hs.brackets ?_ ?_
    · rintro x rfl
      exact hfirsts x (List.mem_singleton_self x)
    · rintro on call rfl
      exact hfirsts
  · have hst := s.groupStep command
    generalize (s.step command).1.groups = groups at hst ⊢
    cases hst with
    | same => exact hs.groups
    | created =>
      exact List.forall_mem_append.2
        ⟨hs.groups, List.forall_mem_singleton.2 (Group.holds_fresh _)⟩
    | @acted on request i g d group_eq deed_eq =>
      intro x hx
      rcases List.mem_or_eq_of_mem_set hx with hold | rfl
      · exact hs.groups x hold
      · -- The deed is the first moment, and the group is what it leaves.
        have hmem : ⟨d, 0, [g]⟩ ∈ (d.before 0 false .idle).moments [g] := by
          rw [Deed.moments_before]
          exact List.mem_cons_self
        have hfirst := hs.group hP group_eq deed_eq hfirsts _ hmem
        cases hhead : (d.perform 0 [g]).groups.head? with
        | none => exact hs.groups g (mem_of_group? group_eq)
        | some x => exact hfirst.after x (List.mem_of_mem_head? hhead)

theorem Numbered.valuesHold_run (h : s.Numbered) (hP : ∀ d : Decimal, d.Fits → P d)
    (hs : s.ValuesHold P) (hfirsts : ∀ c ∈ cs, ∀ x ∈ c.firsts, x.Satisfies P) :
    (s.run cs).1.ValuesHold P := by
  induction cs generalizing s with
  | nil => exact hs
  | cons c cs ih =>
    rw [List.forall_mem_cons] at hfirsts
    exact ih (h.step c) (h.valuesHold_step hP hs hfirsts.1) hfirsts.2

theorem valuesHold_initial : Session.initial.ValuesHold P :=
  ⟨List.forall_mem_nil _, List.forall_mem_nil _⟩

/-! ## Any run -/

/-- Every calculation stays inside the decimals that can be represented, and so does every session
that commands lead to. -/
structure StaysRepresentable (cs : List Command) : Prop where
  /-- Two finite operands, under any operator and with any scale, give a finite result that can be
  represented, or a fault. -/
  combine : ∀ {op : Operator} {a b : Decimal} {scale : Argument} {w : Numeral},
    op.combine (.finite a) (.finite b) scale = .ok w → ∃ d, w = .finite d ∧ d.Representable
  /-- So does one. -/
  transform : ∀ {op : Operator} {a : Decimal} {scale : Argument} {w : Numeral},
    op.transform (.finite a) scale = .ok w → ∃ d, w = .finite d ∧ d.Representable
  /-- A pool answers with a decimal that can be represented, and keeps no others. -/
  get : ∀ {p q : Pool} {d e : Decimal}, p.Representable → d.Representable →
    p.get d = .ok (e, q) → e.Representable ∧ q.Representable
  /-- The value of every scope can be represented. -/
  scopes : ∀ c ∈ (initial.run cs).1.brackets, ∀ scope ∈ c.openScopes ++ c.closed,
    ∀ v, scope.value = some v → v.Representable
  /-- The value of every group that stands alone can be represented. -/
  groups : ∀ g ∈ (initial.run cs).1.groups, ∀ v, g.value = some v → v.Representable
  /-- The values of all groups inside callables could be represented, at every moment. -/
  callables : ∀ {before after : List Command} {c : Command}, cs = before ++ c :: after →
    ∀ m ∈ (initial.run before).1.moments c, m.Holds Decimal.Representable
  /-- A chain with callables that goes back to a beginning has a finite value that can be
  represented. -/
  chains : ∀ {i : ℕ} {flag : Bool}, ChainBegun cs i flag → ∃ c v,
    (initial.run cs).1.chains[i]? = some c ∧ c.value = .finite v ∧ v.Representable
  /-- The entries of every pool can be represented. -/
  pools : ∀ {ref : PoolRef} {p : Pool},
    (initial.run cs).1.settings.pool? ref = some p → p.Representable

/-- Of a chain that goes back to a beginning the value is finite and can be represented. -/
theorem ChainBegun.representable {i : ℕ} {flag : Bool} (h : ChainBegun cs i flag)
    (hfirsts : ∀ c ∈ cs, ∀ x ∈ c.firsts, x.Satisfies Decimal.Representable) : ∃ c v,
      (initial.run cs).1.chains[i]? = some c ∧ c.value = .finite v ∧ v.Representable := by
  obtain ⟨c, v, hc, hv, horigin, -⟩ := h.exists_origin
  refine ⟨c, v, hc, hv, ?_⟩
  rcases horigin with hfits | ⟨x, hmem, hx⟩
  · exact hfits.representable
  · exact (hfirsts _ hmem x (List.mem_singleton_self x)).of_toDecimal? hx

/-- **Nothing that is calculated leaves the decimals that can be represented**, as long as nothing
is begun with a decimal that cannot. -/
theorem staysRepresentable_of_run
    (hfirsts : ∀ c ∈ cs, ∀ x ∈ c.firsts, x.Satisfies Decimal.Representable) :
    StaysRepresentable cs := by
  have hP : ∀ d : Decimal, d.Fits → d.Representable := fun d ↦ Decimal.Fits.representable
  have hrun : (initial.run cs).1.ValuesHold Decimal.Representable :=
    Numbered.initial.valuesHold_run hP valuesHold_initial hfirsts
  constructor
  · intro op a b scale w hw
    obtain ⟨d, hd, hfits⟩ := Operator.exists_of_combine hw
    exact ⟨d, hd, hfits.representable⟩
  · intro op a scale w hw
    obtain ⟨d, hd, hfits⟩ := Operator.exists_of_transform hw
    exact ⟨d, hd, hfits.representable⟩
  · intro p q d e hp hd hget
    obtain ⟨hentries, hanswer⟩ := hp.get hget
    exact ⟨hanswer hd, hentries⟩
  · exact hrun.brackets
  · exact hrun.groups
  · rintro before after c rfl
    rw [List.forall_mem_append, List.forall_mem_cons] at hfirsts
    obtain ⟨hbefore, hc, -⟩ := hfirsts
    exact (Numbered.initial.valuesHold_run hP valuesHold_initial hbefore).moments hP hc
  · exact fun hbegun ↦ hbegun.representable hfirsts
  · intro ref p hp
    exact poolsRepresentable_run Settings.poolsRepresentable_initial cs ref p hp

/-- Operands at the limits: the smallest power of ten, the largest one, and a zero. -/
def limitingCommands : List Command :=
  [.beginBracket (.decimal ⟨false, 1, -1999999999999999997⟩),
    .scope none (.call (.openGroup (.binary .multiply) (.decimal ⟨true, 1, 999999999999999999⟩)
      .absent)), .scope none (.call .close), .scope none .result,
    .newGroup true, .group "g0" (.join .subtract (.script (.plain
      (.begin (.decimal ⟨true, 0, 999999999999999999⟩)) 0 false .idle)) .absent),
    .beginChain (.int 5),
    .chain none (.join .divide (.script (.finish (.fresh (.int 4)))) (.int 2))]

theorem staysRepresentable_limitingCommands :
    (∀ c ∈ limitingCommands, ∀ x ∈ c.firsts, x.Satisfies Decimal.Representable) ∧
      StaysRepresentable limitingCommands := by
  have hfirsts : ∀ c ∈ limitingCommands, ∀ x ∈ c.firsts, x.Satisfies Decimal.Representable := by
    decide
  exact ⟨hfirsts, staysRepresentable_of_run hfirsts⟩

end Session

end ChainedDecimal
