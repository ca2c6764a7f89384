import ChainedDecimal.Proofs.Pool
import ChainedDecimal.Proofs.Session.Effects

/-!
# Pools change by results only

A session may have many pools at a time, and one of them is installed. A pool is used if it is asked
or cleared by its name, or, while it is installed, if it is cleared as the installed pool or a
result passes through it. A command leaves all pools that it does not use as they are, and a command
that fails leaves all pools as they are. So a pool that was left for another one is found again with
the entries that it had, whatever was calculated in the meantime.
-/

namespace ChainedDecimal

namespace Pool

/-- What a result that is answered does to a pool. -/
theorem getNumeral_cases {p q : Pool} {x y : Numeral} (h : p.getNumeral x = .ok (y, q)) :
    q = p ∨ ∃ k d, p = .keeping k ∧ y = .finite d ∧
      q = .keeping { k with entries := k.entries ++ [d] } := by
  match p, x with
  | .plain, .finite d | .plain, .special x | .disabled, .finite d | .disabled, .special x =>
    cases h
    exact Or.inl rfl
  | .keeping k, .special x => cases h
  | .keeping k, .finite d =>
    rw [getNumeral_finite, get, KeepingPool.get] at h
    cases hd : d.normalize with
    | error f =>
      rw [hd] at h
      cases h
    | ok e =>
      rw [hd] at h
      have hanswer : (Numeral.finite (k.place e).1, keeping (k.place e).2) = (y, q) :=
        Except.ok.inj h
      obtain ⟨rfl, rfl⟩ := Prod.mk.inj hanswer
      rcases k.place_cases e with hsame | hnew
      · exact Or.inl (congrArg Pool.keeping hsame)
      · rw [hnew]
        exact Or.inr ⟨k, e, rfl, rfl, rfl⟩

end Pool

namespace Settings

variable {s : Settings} {ref other : PoolRef} {p q : Pool}

/-! ## Putting a pool in another state -/

@[simp] theorem setPool_installed (s : Settings) (ref : PoolRef) (p : Pool) :
    (s.setPool ref p).installed = s.installed := by
  cases ref <;> cases p <;> rfl

@[simp] theorem setPool_tracing (s : Settings) (ref : PoolRef) (p : Pool) :
    (s.setPool ref p).tracing = s.tracing := by
  cases ref <;> cases p <;> rfl

theorem pool?_setPool_of_ne (h : other ≠ ref) :
    (s.setPool ref p).pool? other = s.pool? other := by
  match ref, p, other with
  | .standard, .plain, _ | .standard, .disabled, _ | .unnamed, _, _ => rfl
  | .standard, .keeping k, .standard => exact absurd rfl h
  | .standard, .keeping k, .created j | .standard, .keeping k, .unnamed => rfl
  | .created i, p, .standard | .created i, p, .unnamed => rfl
  | .created i, p, .created j =>
    have hij : i ≠ j := fun heq ↦ h (congrArg PoolRef.created heq.symm)
    exact List.getElem?_set_ne hij

/-- A pool that keeps entries can be put in any other state. -/
theorem pool?_setPool_keeping {k k' : KeepingPool} (h : s.pool? ref = some (.keeping k)) :
    (s.setPool ref (.keeping k')).pool? ref = some (.keeping k') := by
  match ref with
  | .standard => rfl
  | .created i => exact List.getElem?_set_self (List.getElem?_eq_some_iff.1 h).1
  | .unnamed => cases h

theorem pool?_create (h : s.pool? ref = some p) : (s.create q).pool? ref = some p := by
  match ref with
  | .standard | .unnamed => exact h
  | .created i =>
    have hlt : i < s.created.length := (List.getElem?_eq_some_iff.1 h).1
    show (s.created ++ [q])[i]? = some p
    rw [List.getElem?_append_left hlt]
    exact h

theorem pool?_congr {t : Settings} (hstandard : t.standard = s.standard)
    (hcreated : t.created = s.created) : t.pool? ref = s.pool? ref := by
  cases ref with
  | standard => rw [pool?, pool?, hstandard]
  | created i => rw [pool?, pool?, hcreated]
  | unnamed => rfl

theorem installedPool_eq_of_pool? (h : s.pool? s.installed = some p) : s.installedPool = p := by
  rw [installedPool, h, Option.getD_some]

theorem pool?_of_installedPool_keeping {k : KeepingPool} (h : s.installedPool = .keeping k) :
    s.pool? s.installed = some (.keeping k) := by
  rw [installedPool] at h
  cases hpool : s.pool? s.installed with
  | none =>
    rw [hpool] at h
    cases h
  | some p => rw [← h, hpool, Option.getD_some]

/-- The installed pool is in the state that it is in. -/
theorem setPool_installedPool (s : Settings) : s.setPool s.installed s.installedPool = s := by
  obtain ⟨environment, standard, created, installed, tracing⟩ := s
  match installed with
  | .standard | .unnamed => rfl
  | .created i =>
    have hset : created.set i (created[i]?.getD .disabled) = created := by
      refine List.ext_getElem? fun j ↦ ?_
      rw [List.getElem?_set]
      split
      · rename_i hij
        subst hij
        split
        · rename_i hlt
          rw [List.getElem?_eq_getElem hlt, Option.getD_some]
        · rename_i hge
          rw [List.getElem?_eq_none (Nat.le_of_not_lt hge)]
      · rfl
    exact congrArg (fun pools ↦ (⟨environment, standard, pools, .created i, tracing⟩ : Settings))
      hset

/-- What a result that is answered does to the installed pool. -/
theorem installedPool_of_pooledNumeral {settings : Settings} {x y : Numeral}
    (h : s.pooledNumeral x = .ok (y, settings)) :
    settings = s ∨ ∃ k d, s.installedPool = .keeping k ∧ y = .finite d ∧
      settings.installedPool = .keeping { k with entries := k.entries ++ [d] } := by
  rw [pooledNumeral] at h
  cases hget : s.installedPool.getNumeral x with
  | error f =>
    rw [hget] at h
    cases h
  | ok a =>
    rw [hget] at h
    cases h
    rcases Pool.getNumeral_cases hget with hsame | ⟨k, d, hk, hd, hq⟩
    · refine Or.inl ?_
      rw [hsame]
      exact s.setPool_installedPool
    · refine Or.inr ⟨k, d, hk, hd, installedPool_eq_of_pool? ?_⟩
      rw [hq, setPool_installed]
      exact pool?_setPool_keeping (pool?_of_installedPool_keeping hk)

/-- A result leaves all pools but the installed one as they are. -/
theorem pool?_of_pooledNumeral {settings : Settings} {x y : Numeral}
    (h : s.pooledNumeral x = .ok (y, settings)) (hne : ref ≠ s.installed) :
    settings.pool? ref = s.pool? ref := by
  rw [pooledNumeral] at h
  cases hget : s.installedPool.getNumeral x with
  | error f =>
    rw [hget] at h
    cases h
  | ok a =>
    rw [hget] at h
    cases h
    exact pool?_setPool_of_ne hne

end Settings

namespace Session

variable {command : Command}

/-! ## The use of a pool -/

/-- A command asks or clears a pool by its name. -/
inductive AsksPool (s : Session) (ref : PoolRef) : Command → Prop where
  | get {on : String} (x : Argument) (name_eq : s.poolRef? on = some ref) :
      AsksPool s ref (.pool on (.get x))
  | clear {on : String} (name_eq : s.poolRef? on = some ref) : AsksPool s ref (.pool on .clear)

/-- A command clears the installed pool, or a result of a calculation passes through it. -/
inductive UsesInstalled (s : Session) : Command → Prop where
  | clear : UsesInstalled s (.settings .clearPool)
  | result {c : Command} {y : Numeral} {entries : Option Nat} (asks : c.asksResult = true)
      (answered : (s.step c).2.outcome = .ok (.result y entries)) : UsesInstalled s c

/-- A command uses a pool, by its name or while it is installed. -/
def UsesPool (s : Session) (ref : PoolRef) (c : Command) : Prop :=
  s.AsksPool ref c ∨ s.settings.installed = ref ∧ s.UsesInstalled c

/-- No command of a run uses the pool. -/
def SparesPool (ref : PoolRef) : Session → List Command → Prop
  | _, [] => True
  | s, c :: cs => ¬s.UsesPool ref c ∧ SparesPool ref (s.step c).1 cs

/-- During a run the pool is not installed, and nobody asks or clears it by its name. -/
def AwayFromPool (ref : PoolRef) : Session → List Command → Prop
  | _, [] => True
  | s, c :: cs =>
    s.settings.installed ≠ ref ∧ ¬s.AsksPool ref c ∧ AwayFromPool ref (s.step c).1 cs

/-- A command that may install another pool. -/
inductive Command.Installs : Command → Prop where
  | install (pool : Installation) : Command.Installs (.settings (.install pool))
  | reset : Command.Installs (.settings .reset)

/-- Pools change only where they are used. -/
structure PoolsChangeByUse (s : Session) : Prop where
  /-- A command leaves every pool that it does not use as it is. -/
  unused : ∀ {c : Command} {ref : PoolRef} {p : Pool}, s.settings.pool? ref = some p →
    ¬s.UsesPool ref c → (s.step c).1.settings.pool? ref = some p
  /-- A command that fails leaves all pools as they are. -/
  failed : ∀ {c : Command} {f : Fault}, (s.step c).2.outcome = .error f →
    (s.step c).1.settings = s.settings
  /-- A result takes nothing from the installed pool, and adds at most one entry: the answer. -/
  result : ∀ {c : Command} {y : Numeral} {entries : Option Nat},
    (s.step c).2.outcome = .ok (.result y entries) →
      (s.step c).1.settings.installedPool = s.settings.installedPool ∨
      ∃ k d, s.settings.installedPool = .keeping k ∧ y = .finite d ∧
        (s.step c).1.settings.installedPool = .keeping { k with entries := k.entries ++ [d] }
  /-- A run leaves every pool that no command of it uses as it is. -/
  run : ∀ {cs : List Command} {ref : PoolRef} {p : Pool}, s.settings.pool? ref = some p →
    SparesPool ref s cs → (s.run cs).1.settings.pool? ref = some p
  /-- A pool that is left, by installing another one or by a reset, and not named until it is
  installed again is found as it was left. -/
  found : ∀ {c : Command} {cs : List Command} {ref : PoolRef} {p : Pool}, c.Installs →
    s.settings.pool? ref = some p → AwayFromPool ref (s.step c).1 cs →
      (s.run (c :: cs)).1.settings.installed = ref →
        (s.run (c :: cs)).1.settings.installedPool = p

variable {s : Session} {ref : PoolRef} {p : Pool}

/-- A pool that a command does not use is afterwards what it was before. -/
theorem pool?_step_of_not_usesPool (hp : s.settings.pool? ref = some p)
    (h : ¬s.UsesPool ref command) : (s.step command).1.settings.pool? ref = some p := by
  have hstep := s.settingsStep command
  generalize hanswer : (s.step command).2.outcome = outcome at hstep
  generalize (s.step command).1.settings = settings at hstep ⊢
  generalize (s.step command).2.events = events at hstep
  cases hstep with
  | same => exact hp
  | pooled asks pooled_eq =>
    have hne : ref ≠ s.settings.installed := fun heq ↦
      h (Or.inr ⟨heq.symm, .result asks hanswer⟩)
    rw [Settings.pool?_of_pooledNumeral pooled_eq hne, hp]
  | @asked on x y other p q ref_eq =>
    have hne : ref ≠ other := fun heq ↦ h (Or.inl (.get x (heq ▸ ref_eq)))
    rw [Settings.pool?_setPool_of_ne hne, hp]
  | @cleared on other p _ ref_eq =>
    have hne : ref ≠ other := fun heq ↦ h (Or.inl (.clear (heq ▸ ref_eq)))
    rw [Settings.pool?_setPool_of_ne hne, hp]
  | clearedInstalled =>
    have hne : ref ≠ s.settings.installed := fun heq ↦ h (Or.inr ⟨heq.symm, .clear⟩)
    rw [Settings.pool?_setPool_of_ne hne, hp]
  | created => exact Settings.pool?_create hp
  | administered _ standard_eq created_eq =>
    rw [Settings.pool?_congr standard_eq created_eq, hp]

theorem settings_step_of_error {f : Fault} (h : (s.step command).2.outcome = .error f) :
    (s.step command).1.settings = s.settings := by
  have hstep := s.settingsStep command
  rw [h] at hstep
  generalize (s.step command).1.settings = settings at hstep ⊢
  generalize (s.step command).2.events = events at hstep
  cases hstep with
  | same => rfl

theorem installedPool_step_of_result {y : Numeral} {entries : Option Nat}
    (h : (s.step command).2.outcome = .ok (.result y entries)) :
    (s.step command).1.settings.installedPool = s.settings.installedPool ∨
      ∃ k d, s.settings.installedPool = .keeping k ∧ y = .finite d ∧
        (s.step command).1.settings.installedPool =
          .keeping { k with entries := k.entries ++ [d] } := by
  have hstep := s.settingsStep command
  rw [h] at hstep
  generalize (s.step command).1.settings = settings at hstep ⊢
  generalize (s.step command).2.events = events at hstep
  cases hstep with
  | same => exact Or.inl rfl
  | pooled asks pooled_eq =>
    rcases Settings.installedPool_of_pooledNumeral pooled_eq with hsame | hnew
    · exact Or.inl (congrArg Settings.installedPool hsame)
    · exact Or.inr hnew

/-! ## Any run -/

theorem pool?_run_of_sparesPool {cs : List Command} (hp : s.settings.pool? ref = some p)
    (h : SparesPool ref s cs) : (s.run cs).1.settings.pool? ref = some p := by
  induction cs generalizing s with
  | nil => exact hp
  | cons c cs ih => exact ih (pool?_step_of_not_usesPool hp h.1) h.2

/-- Of a pool that is not installed nothing is used but by its name. -/
theorem SparesPool.of_awayFromPool {cs : List Command} (h : AwayFromPool ref s cs) :
    SparesPool ref s cs := by
  induction cs generalizing s with
  | nil => exact trivial
  | cons c cs ih =>
    obtain ⟨haway, hasks, hrest⟩ := h
    refine ⟨?_, ih hrest⟩
    rintro (hname | ⟨hhere, -⟩)
    · exact hasks hname
    · exact haway hhere

/-- Installing another pool uses none. -/
theorem not_usesPool_of_installs (h : command.Installs) : ¬s.UsesPool ref command := by
  rintro (hname | ⟨-, hinstalled⟩)
  · cases h <;> cases hname
  · cases hinstalled with
    | clear => cases h
    | result asks => cases h <;> cases asks

/-- **Pools change by results only**, by requests that name them, and by nothing else. -/
theorem poolsChangeByUse (s : Session) : s.PoolsChangeByUse := by
  constructor
  · exact pool?_step_of_not_usesPool
  · exact settings_step_of_error
  · exact installedPool_step_of_result
  · exact pool?_run_of_sparesPool
  · intro c cs ref p hinstalls hp haway hback
    have hleft := pool?_step_of_not_usesPool hp (not_usesPool_of_installs hinstalls)
    have hfound := pool?_run_of_sparesPool hleft (.of_awayFromPool haway)
    refine Settings.installedPool_eq_of_pool? ?_
    rw [hback]
    exact hfound

/-- Between two stays in the standard pool, a result passes it by. -/
example : (Session.initial.run [.calculate (.absolute (.int 0)), .settings (.install .nothing),
    .calculate (.negate (.int 2)), .settings .reset]).1.settings.installedPool =
      .keeping ⟨.standard, [.zero]⟩ := by
  decide

end Session

end ChainedDecimal
