import ChainedDecimal.Proofs.Alike.Basic
import ChainedDecimal.Proofs.Session.Failures
import ChainedDecimal.Proofs.Session.Pools

/-!
# Replies up to names

In a session with many chains a scope has one name, and in a session that has nothing but its chain
it has another. Two replies are the same up to names if they differ in no more than that: they tell
of the same scopes in the same states, of the same faults, texts and events, and of results that
represent the same number. The entries of the pool are no part of this, for what a pool holds
depends on all that has passed through it.
-/

namespace ChainedDecimal

open Decimal (SameNumber)

/-! ## Pools of one sort -/

/-- Pools of one sort have the same faults, and answer with the same number. -/
theorem Pool.rel_get {p q : Pool} (h : p.sort = q.sort) (d : Decimal) :
    Fault.Rel Eq (fun x y ↦ SameNumber x.1 y.1) (p.get d) (q.get d) := by
  match p, q with
  | .plain, .plain | .disabled, .disabled => exact .ok rfl
  | .keeping k, .keeping k' =>
    rw [get, get, KeepingPool.get, KeepingPool.get]
    cases d.normalize with
    | error f => exact .error rfl
    | ok e => exact .ok ((k.sameNumber_place e).trans (k'.sameNumber_place e).symm)
  | .plain, .disabled | .plain, .keeping _ | .disabled, .plain | .disabled, .keeping _
  | .keeping _, .plain | .keeping _, .disabled => exact absurd h (by simp [sort])

namespace Settings

/-- What of the settings has a part in a calculation: whether it is traced, and of what sort the
pool is that its result passes through. -/
def kind (s : Settings) : Bool × String := (s.tracing, s.installedPool.sort)

variable {s t settings : Settings} {x y : Numeral}

/-- A result does not change that. -/
theorem kind_of_pooledNumeral (h : s.pooledNumeral x = .ok (y, settings)) :
    settings.kind = s.kind := by
  have htracing : settings.tracing = s.tracing := by
    rw [pooledNumeral] at h
    obtain ⟨p, -, hp⟩ := Fault.map_eq_ok.1 h
    cases hp
    rw [setPool_tracing]
  rcases installedPool_of_pooledNumeral h with rfl | ⟨k, d, hk, -, hnew⟩
  · rfl
  · rw [kind, kind, htracing, hnew, hk]
    rfl

/-- Results that pass through pools of one sort represent the same number. -/
theorem rel_pooledNumeral (h : s.kind = t.kind) (v : Decimal) :
    Fault.Rel Eq (fun p q ↦ ∃ d e, p.1 = .finite d ∧ q.1 = .finite e ∧ SameNumber d e)
      (s.pooledNumeral (.finite v)) (t.pooledNumeral (.finite v)) := by
  have hget := Pool.rel_get (Prod.mk.inj h).2 v
  rw [pooledNumeral_finite, pooledNumeral_finite, pooled, pooled]
  exact (hget.map (S := fun p q ↦ SameNumber p.1 q.1) fun _ _ hsame ↦ hsame).map
    fun _ _ hsame ↦ ⟨_, _, rfl, rfl, hsame⟩

end Settings

namespace Session

/-- A scope of the chain at a place has the first name in the session, and the second one by its
number in the chain. -/
def Named (s : Session) (k : Nat) (a b : String) : Prop :=
  ∃ i id, s.scopes[i]? = some (k, id) ∧ a = scopeName i ∧ b = scopeName id

/-- The same scope in the same state, up to names. -/
structure ScopeState.Renamed (N : String → String → Prop) (x y : ScopeState) : Prop where
  name : N x.name y.name
  view_eq : x.view = y.view
  parent : Option.Rel N x.parent y.parent
  child : Option.Rel N x.child y.child

/-- The same answer, up to names. Results represent the same number. -/
inductive Outcome.Renamed (N : String → String → Prop) : Outcome → Outcome → Prop where
  | scope {a b : String} (name : N a b) : Renamed N (.scope a) (.scope b)
  | result {v w : Decimal} (entries entries' : Option Nat) (number : SameNumber v w) :
      Renamed N (.result (.finite v) entries) (.result (.finite w) entries')
  | text (x : String) : Renamed N (.text x) (.text x)

/-- The same scopes are shown, up to names. -/
inductive Status.Renamed (N : String → String → Prop) : Status → Status → Prop where
  | hidden : Renamed N .hidden .hidden
  | scopes {xs ys : List ScopeState} (states : List.Forall₂ (ScopeState.Renamed N) xs ys) :
      Renamed N (.scopes xs) (.scopes ys)

/-- The same reply, up to names. -/
structure Reply.Renamed (N : String → String → Prop) (r q : Reply) : Prop where
  /-- Both failed with the same fault, or both have the same answer. -/
  outcome : Fault.Rel Eq (Outcome.Renamed N) r.outcome q.outcome
  /-- The same states are shown. -/
  status : r.status.Renamed N q.status
  /-- The same is reported. -/
  events_eq : r.events = q.events

variable {s t : Session} {k : Nat} {a b a' b' : String} {N M : String → String → Prop}

/-! ## Names -/

/-- No scope has two names, and no name belongs to two scopes. -/
theorem Numbered.named_inj (hs : s.Numbered) (h : s.Named k a b) (h' : s.Named k a' b') :
    a = a' ↔ b = b' := by
  obtain ⟨i, id, hi, rfl, rfl⟩ := h
  obtain ⟨i', id', hi', rfl, rfl⟩ := h'
  constructor
  · intro heq
    have hplace : i = i' := nameOf_injective "n" heq
    rw [hplace, hi', Option.some.injEq, Prod.mk.injEq] at hi
    rw [hi.2]
  · intro heq
    have hnumber : id = id' := nameOf_injective "n" heq
    rw [← hnumber, ← placeIn?_eq_some_iff hs.nodup_scopes] at hi'
    rw [← placeIn?_eq_some_iff hs.nodup_scopes, hi', Option.some.injEq] at hi
    rw [hi]

theorem Named.run (h : s.Named k a b) (hs : s.Numbered) (commands : List Command) :
    (s.run commands).1.Named k a b := by
  obtain ⟨i, id, hi, ha, hb⟩ := h
  exact ⟨i, id, hs.scopes_kept_run hi commands, ha, hb⟩

theorem SameScopes.named_eq (h : SameScopes s t) : t.Named k = s.Named k := by
  funext a b
  rw [Named, Named, h.scopes]

/-! ## More names -/

theorem ScopeState.Renamed.mono {x y : ScopeState} (h : x.Renamed N y)
    (hNM : ∀ {a b}, N a b → M a b) : x.Renamed M y := by
  have hrel : ∀ {a b : Option String}, Option.Rel N a b → Option.Rel M a b := by
    intro a b hab
    rcases hab with hab | _
    · exact .some (hNM hab)
    · exact .none
  exact ⟨hNM h.name, h.view_eq, hrel h.parent, hrel h.child⟩

theorem Status.Renamed.mono {x y : Status} (h : x.Renamed N y)
    (hNM : ∀ {a b}, N a b → M a b) : x.Renamed M y := by
  cases h with
  | hidden => exact .hidden
  | scopes states => exact .scopes (states.imp fun _ _ hstate ↦ hstate.mono hNM)

/-- Replies that are the same up to some names are so up to more names. -/
theorem Reply.Renamed.mono {r q : Reply} (h : r.Renamed N q) (hNM : ∀ {a b}, N a b → M a b) :
    r.Renamed M q := by
  obtain ⟨outcome, status, events⟩ := r
  obtain ⟨outcome', status', events'⟩ := q
  refine ⟨?_, h.status.mono hNM, h.events_eq⟩
  rcases h.outcome with hf | ho
  · exact .error hf
  · refine .ok ?_
    cases ho with
    | scope name => exact .scope (hNM name)
    | result entries entries' number => exact .result entries entries' number
    | text x => exact .text x

/-! ## Results -/

/-- No request to a bracketed chain changes the settings in this respect. -/
theorem kind_step {command : Command} (h : command.onBrackets = true) :
    (s.step command).1.settings.kind = s.settings.kind := by
  have hstep := s.settingsStep command
  generalize (s.step command).2.outcome = outcome at hstep
  generalize (s.step command).1.settings = settings at hstep ⊢
  generalize (s.step command).2.events = events at hstep
  cases hstep with
  | same => rfl
  | pooled _ pooled_eq => exact Settings.kind_of_pooledNumeral pooled_eq
  | administered administers =>
    rcases onBrackets_iff.1 h with ⟨x, rfl⟩ | ⟨on, request, rfl⟩ <;> cases administers
  | asked | cleared | clearedInstalled | created => cases h

theorem kind_read (engine : String) (formula : Option String) (v : Numeral) (status : Status) :
    (s.read engine formula v status).1.settings.kind = s.settings.kind := by
  rw [read, finish]
  cases hpooled : s.settings.pooledNumeral v with
  | error f => rfl
  | ok p => exact Settings.kind_of_pooledNumeral hpooled

/-- Results of one value represent the same number in sessions with settings of one kind. -/
theorem renamed_read (h : s.settings.kind = t.settings.kind) {status status' : Status}
    (hstatus : status.Renamed N status') (engine : String) (formula : Option String)
    (v : Decimal) :
    (s.read engine formula (.finite v) status).2.Renamed N
      (t.read engine formula (.finite v) status').2 := by
  have hrel := Settings.rel_pooledNumeral h v
  rw [read, read, finish, finish]
  generalize s.settings.pooledNumeral (.finite v) = x at hrel ⊢
  generalize t.settings.pooledNumeral (.finite v) = y at hrel ⊢
  rcases hrel with hf | ⟨d, e, hd, he, hsame⟩
  · exact ⟨.error hf, hstatus, rfl⟩
  · rename_i p q
    obtain ⟨w, settings⟩ := p
    obtain ⟨u, settings'⟩ := q
    cases hd
    cases he
    exact ⟨.ok (.result _ _ hsame), hstatus, rfl⟩

end Session

end ChainedDecimal
