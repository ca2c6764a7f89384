import ChainedDecimal.Proofs.Bracket.Values
import ChainedDecimal.Proofs.Session.Scopes

/-!
# What a command does to the scopes

A command leaves the scopes of a session alone, or begins a chain, or carries out a call that
succeeds. In the last two cases the session afterwards is spelled out here, and it is numbered if
the one before was. So every session that can be reached is numbered, and anything that holds of the
chains at the beginning and is kept by a move holds of all chains of a reachable session.
-/

namespace ChainedDecimal

namespace Session

open ChainedDecimal.Bracket

/-- The session in which a chain was begun. -/
def withNewBracket (s : Session) (c : Chain) : Session :=
  { s with
    brackets := s.brackets ++ [c]
    scopes := s.scopes ++ [(s.brackets.length, c.exposed.id)]
    latestScope := some s.scopes.length }

/-- The session in which a call on the scope of a chain was carried out, with the place of the scope
to go on with. -/
def afterCall (s : Session) (chain : Nat) (before after : Chain) (j : Nat) : Session :=
  { s.withBracket chain before after with latestScope := some j }

variable {s t : Session} {i j chain id : Nat} {c c' : Chain} {call : Call}

/-! ## Beginning a chain -/

theorem beginBracket_ok {initial : Argument}
    (h : Chain.begin initial s.settings.tracing = .ok c) :
    s.beginBracket initial = (s.withNewBracket c,
      ⟨.ok (.scope (scopeName s.scopes.length)),
        (s.withNewBracket c).scopeStates [s.scopes.length], []⟩) := by
  rw [beginBracket, h]
  rfl

theorem beginBracket_error {initial : Argument} {f : Fault}
    (h : Chain.begin initial s.settings.tracing = .error f) :
    s.beginBracket initial = (s, .of (.error f)) := by
  rw [beginBracket, h]

theorem Numbered.withNewBracket (h : s.Numbered) {initial : Argument} {traced : Bool}
    (hc : Chain.begin initial traced = .ok c) : (s.withNewBracket c).Numbered := by
  obtain ⟨hroot, hsize⟩ := Chain.exposed_id_begin hc
  have hnew : ∀ id, (s.brackets.length, id) ∉ s.scopes := by
    intro id hmem
    obtain ⟨c', hc', -⟩ := (h.mem_scopes_iff _ _).1 hmem
    exact Nat.lt_irrefl _ (List.getElem?_eq_some_iff.1 hc').1
  constructor
  · intro c' hc'
    rcases List.mem_append.1 hc' with hold | hone
    · exact h.wellNested c' hold
    · rw [List.mem_singleton.1 hone]
      exact Chain.wellNested_begin hc
  · refine List.nodup_append.2 ⟨h.nodup_scopes, by simp, fun p hp q hq ↦ ?_⟩
    rw [List.mem_singleton.1 hq]
    intro heq
    exact hnew _ (heq ▸ hp)
  · intro chain id
    rw [Session.withNewBracket, List.mem_append, List.mem_singleton, hroot, h.mem_scopes_iff,
      List.getElem?_append]
    -- The old chains have their scopes, the new one has its root, and there are no others.
    by_cases hlt : chain < s.brackets.length
    · have hne : chain ≠ s.brackets.length := Nat.ne_of_lt hlt
      simp [hlt, hne]
    · have hnone : s.brackets[chain]? = none := List.getElem?_eq_none (Nat.le_of_not_lt hlt)
      rw [if_neg hlt, hnone]
      by_cases heq : chain = s.brackets.length
      · simp [heq, hsize]
      · have hpos : 0 < chain - s.brackets.length := by omega
        have hbeyond : [c][chain - s.brackets.length]? = none :=
          List.getElem?_eq_none hpos
        simp [heq, hbeyond]
  · intro i hi
    cases hi
    exact ⟨s.brackets.length, c, by simp [Session.withNewBracket],
      by simp [Session.withNewBracket]⟩

/-! ## Calling a scope -/

theorem brackets_afterCall (hc : s.brackets[chain]? = some c) :
    (s.afterCall chain c c' j).brackets[chain]? = some c' :=
  List.getElem?_set_self (List.getElem?_eq_some_iff.1 hc).1

/-- The scopes after a call are those before, and the exposed one. -/
theorem Numbered.mem_scopes_withBracket (h : s.Numbered) (hc : s.brackets[chain]? = some c)
    (hm : Chain.Move c call c') (p : Nat × Nat) :
    p ∈ (s.withBracket chain c c').scopes ↔ p ∈ s.scopes ∨ p = (chain, c'.exposed.id) := by
  have hwell := h.wellNested_of_get hc
  rcases hm.size_cases hwell with ⟨hsize, hlt⟩ | ⟨hsize, -⟩
  · have hmem : (chain, c'.exposed.id) ∈ s.scopes := (h.mem_scopes_iff _ _).2 ⟨c, hc, hlt⟩
    rw [withBracket, if_neg (by omega)]
    refine ⟨Or.inl, ?_⟩
    rintro (hp | rfl)
    · exact hp
    · exact hmem
  · rw [withBracket, if_pos (by omega), List.mem_append, List.mem_singleton]

theorem Numbered.nodup_scopes_withBracket (h : s.Numbered) (hc : s.brackets[chain]? = some c)
    (hm : Chain.Move c call c') : (s.withBracket chain c c').scopes.Nodup := by
  have hwell := h.wellNested_of_get hc
  rcases hm.size_cases hwell with ⟨hsize, -⟩ | ⟨hsize, hid⟩
  · rw [withBracket, if_neg (by omega)]
    exact h.nodup_scopes
  · rw [withBracket, if_pos (by omega)]
    refine List.nodup_append.2 ⟨h.nodup_scopes, by simp, fun p hp q hq heq ↦ ?_⟩
    rw [List.mem_singleton.1 hq, hid] at heq
    obtain ⟨d, hd, hlt⟩ := (h.mem_scopes_iff _ _).1 (heq ▸ hp)
    rw [hc] at hd
    cases hd
    exact Nat.lt_irrefl _ hlt

theorem Numbered.afterCall (h : s.Numbered) (hc : s.brackets[chain]? = some c)
    (hm : Chain.Move c call c')
    (hj : (s.withBracket chain c c').scopes[j]? = some (chain, c'.exposed.id)) :
    (s.afterCall chain c c' j).Numbered := by
  have hwell := h.wellNested_of_get hc
  have hlt : chain < s.brackets.length := (List.getElem?_eq_some_iff.1 hc).1
  constructor
  · intro d hd
    rcases List.mem_or_eq_of_mem_set hd with hold | rfl
    · exact h.wellNested d hold
    · exact hwell.move hm
  · exact h.nodup_scopes_withBracket hc hm
  · intro k id
    refine (h.mem_scopes_withBracket hc hm (k, id)).trans ?_
    rw [h.mem_scopes_iff, Prod.mk.injEq]
    by_cases hk : chain = k
    · -- The chain of the call: its scopes are those before, and the one opened, if any.
      subst hk
      have hget : (s.afterCall chain c c' j).brackets[chain]? = some c' := brackets_afterCall hc
      rw [hget, hc]
      rcases hm.size_cases hwell with ⟨hsize, hid⟩ | ⟨hsize, hid⟩
      · simp only [Option.some.injEq, exists_eq_left', hsize, true_and]
        omega
      · simp only [Option.some.injEq, exists_eq_left', hsize, hid, true_and]
        omega
    · have hget : (s.afterCall chain c c' j).brackets[k]? = s.brackets[k]? :=
        List.getElem?_set_ne hk
      simp [hget, Ne.symm hk]
  · intro i hi
    cases hi
    exact ⟨chain, c', hj, brackets_afterCall hc⟩

/-- A call that succeeds names the scope to go on with. -/
theorem Numbered.callScope_ok (h : s.Numbered) (hc : s.brackets[chain]? = some c)
    (hcall : c.call id call = .ok c') :
    ∃ j, (s.withBracket chain c c').scopes[j]? = some (chain, c'.exposed.id) ∧
      s.callScope i chain id c call = (s.afterCall chain c c' j,
        ⟨.ok (.scope (scopeName j)),
          (s.withBracket chain c c').scopeStates (if j = i then [i] else [i, j]), []⟩) := by
  have hm := (Chain.call_eq_ok_iff.1 hcall).2
  have hmem := (h.mem_scopes_withBracket hc hm (chain, c'.exposed.id)).2 (Or.inr rfl)
  obtain ⟨j, hj⟩ := List.mem_iff_getElem?.1 hmem
  have hfind : (s.withBracket chain c c').scopes.findIdx? (· == (chain, c'.exposed.id)) = some j :=
    (placeIn?_eq_some_iff (h.nodup_scopes_withBracket hc hm)).2 hj
  refine ⟨j, hj, ?_⟩
  rw [callScope, hcall]
  simp only [hfind]
  rfl

theorem callScope_error {f : Fault} (hcall : c.call id call = .error f) :
    s.callScope i chain id c call = (s, ⟨.error f, s.scopeStates [i], []⟩) := by
  rw [callScope, hcall]

/-- A request to a scope that is in the table is answered by its chain. -/
theorem onScope_of_get {on : Option String} {request : ScopeRequest}
    (hon : s.scopePlace? on = some i) (hi : s.scopes[i]? = some (chain, id))
    (hc : s.brackets[chain]? = some c) :
    s.onScope on request = s.askScope i chain id c request := by
  rw [onScope, hon]
  simp only [hi, hc]

/-- A request to a scope is not understood, or is answered by the chain of the scope. -/
theorem onScope_cases (s : Session) (on : Option String) (request : ScopeRequest) :
    s.onScope on request = (s, .unknown) ∨ ∃ i k id c, s.scopePlace? on = some i ∧
      s.scopes[i]? = some (k, id) ∧ s.brackets[k]? = some c ∧
      s.onScope on request = s.askScope i k id c request := by
  unfold onScope
  split
  · exact Or.inl rfl
  · rename_i i hon
    split
    · exact Or.inl rfl
    · rename_i k id hi
      split
      · exact Or.inl rfl
      · rename_i c hc
        exact Or.inr ⟨i, k, id, c, hon, hi, hc, rfl⟩

/-! ## Any command -/

/-- Whether a command begins a bracketed chain or calls one of its scopes. -/
def Command.movesBrackets : Command → Bool
  | .beginBracket _ | .scope _ (.call _) => true
  | _ => false

/-- What a command can do to the bracketed chains, and what it answers then. -/
inductive BracketStep (s : Session) : Command → Except Fault Outcome → Session → Prop where
  /-- Nothing, if it is about something else or fails. -/
  | idle {command : Command} {outcome : Except Fault Outcome} {t : Session} (same : SameScopes s t)
      (failed : command.movesBrackets = true → ∃ f, outcome = .error f) :
      BracketStep s command outcome t
  /-- Begin a chain. -/
  | begun {initial : Argument} {c : Chain}
      (begin_ok : Chain.begin initial s.settings.tracing = .ok c) :
      BracketStep s (.beginBracket initial) (.ok (.scope (scopeName s.scopes.length)))
        (s.withNewBracket c)
  /-- Carry out a call on the exposed scope of a chain. -/
  | called {on : Option String} {chain i j : Nat} {c c' : Chain} {call : Call}
      (on_eq : s.scopePlace? on = some i) (scope_eq : s.scopes[i]? = some (chain, c.exposed.id))
      (chain_eq : s.brackets[chain]? = some c) (move : Chain.Move c call c')
      (place_eq : (s.withBracket chain c c').scopes[j]? = some (chain, c'.exposed.id)) :
      BracketStep s (.scope on (.call call)) (.ok (.scope (scopeName j)))
        (s.afterCall chain c c' j)

theorem bracketStep_beginBracket (s : Session) (initial : Argument) :
    BracketStep s (.beginBracket initial) (s.beginBracket initial).2.outcome
      (s.beginBracket initial).1 := by
  cases hc : Chain.begin initial s.settings.tracing with
  | error f =>
    rw [beginBracket_error hc]
    exact .idle (.refl s) fun _ ↦ ⟨f, rfl⟩
  | ok c =>
    rw [beginBracket_ok hc]
    exact .begun hc

theorem Numbered.bracketStep_call (h : s.Numbered) (on : Option String) (call : Call) :
    BracketStep s (.scope on (.call call)) (s.onScope on (.call call)).2.outcome
      (s.onScope on (.call call)).1 := by
  rcases s.onScope_cases on (.call call) with heq | ⟨i, k, id, c, hon, hi, hc, heq⟩
  · rw [heq]
    exact .idle (.refl s) fun _ ↦ ⟨_, rfl⟩
  · rw [heq, askScope]
    cases hcall : c.call id call with
    | error f =>
      rw [callScope_error hcall]
      exact .idle (.refl s) fun _ ↦ ⟨f, rfl⟩
    | ok c' =>
      obtain ⟨rfl, hm⟩ := Chain.call_eq_ok_iff.1 hcall
      obtain ⟨j, hj, hok⟩ := h.callScope_ok (i := i) hc hcall
      rw [hok]
      exact .called hon hi hc hm hj

theorem Numbered.bracketStep (h : s.Numbered) (command : Command) :
    BracketStep s command (s.step command).2.outcome (s.step command).1 := by
  by_cases hbegin : ∃ initial, command = .beginBracket initial
  · obtain ⟨initial, rfl⟩ := hbegin
    exact s.bracketStep_beginBracket initial
  · by_cases hcall : ∃ on call, command = .scope on (.call call)
    · obtain ⟨on, call, rfl⟩ := hcall
      exact h.bracketStep_call on call
    · refine .idle (SameScopes.step s (fun initial heq ↦ hbegin ⟨initial, heq⟩)
        fun on call heq ↦ hcall ⟨on, call, heq⟩) fun hmoves ↦ ?_
      unfold Command.movesBrackets at hmoves
      split at hmoves
      · exact absurd ⟨_, rfl⟩ hbegin
      · exact absurd ⟨_, _, rfl⟩ hcall
      · cases hmoves

/-- What a command can do to the scopes of a session. -/
inductive ScopeStep (s : Session) : Session → Prop where
  /-- Nothing. -/
  | same {t : Session} (same : SameScopes s t) : ScopeStep s t
  /-- Begin a chain. -/
  | begun {initial : Argument} {traced : Bool} {c : Chain}
      (begin_ok : Chain.begin initial traced = .ok c) : ScopeStep s (s.withNewBracket c)
  /-- Carry out a call on the exposed scope of a chain. -/
  | called {chain j : Nat} {c c' : Chain} {call : Call} (chain_eq : s.brackets[chain]? = some c)
      (move : Chain.Move c call c')
      (place_eq : (s.withBracket chain c c').scopes[j]? = some (chain, c'.exposed.id)) :
      ScopeStep s (s.afterCall chain c c' j)

theorem BracketStep.scopeStep {command : Command} {outcome : Except Fault Outcome}
    (h : BracketStep s command outcome t) : ScopeStep s t := by
  cases h with
  | idle same => exact .same same
  | begun begin_ok => exact .begun begin_ok
  | called _ _ chain_eq move place_eq => exact .called chain_eq move place_eq

/-- A scope keeps its place, its chain and its number there. -/
theorem ScopeStep.scopes_kept (h : ScopeStep s t) {p : Nat × Nat} (hi : s.scopes[i]? = some p) :
    t.scopes[i]? = some p := by
  have hlt : i < s.scopes.length := (List.getElem?_eq_some_iff.1 hi).1
  cases h with
  | same same => rw [same.scopes, hi]
  | begun => exact (List.getElem?_append_left hlt).trans hi
  | @called k j c c' =>
    show (if c.size < c'.size then s.scopes ++ [(k, c'.exposed.id)] else s.scopes)[i]? = some p
    split
    · rw [List.getElem?_append_left hlt, hi]
    · exact hi

theorem Numbered.scopeStep (h : s.Numbered) (command : Command) :
    ScopeStep s (s.step command).1 := (h.bracketStep command).scopeStep

theorem Numbered.of_scopeStep (h : s.Numbered) (hst : ScopeStep s t) : t.Numbered := by
  cases hst with
  | same same => exact h.of_sameScopes same
  | begun begin_ok => exact h.withNewBracket begin_ok
  | called chain_eq move place_eq => exact h.afterCall chain_eq move place_eq

theorem Numbered.step (h : s.Numbered) (command : Command) : (s.step command).1.Numbered :=
  h.of_scopeStep (h.scopeStep command)

/-! ## Any run -/

theorem run_cons (s : Session) (command : Command) (commands : List Command) :
    s.run (command :: commands) =
      (((s.step command).1.run commands).1,
        (s.step command).2 :: ((s.step command).1.run commands).2) := rfl

theorem run_append (s : Session) (cs ds : List Command) :
    (s.run (cs ++ ds)).1 = ((s.run cs).1.run ds).1 := by
  induction cs generalizing s with
  | nil => rfl
  | cons c cs ih => exact ih (s.step c).1

theorem Numbered.run (h : s.Numbered) (commands : List Command) :
    (s.run commands).1.Numbered := by
  induction commands generalizing s with
  | nil => exact h
  | cons command commands ih => exact ih (h.step command)

/-- What every step keeps, every run keeps. -/
theorem Numbered.run_induction {P : Session → Prop} (h : s.Numbered) (hs : P s)
    (hstep : ∀ {s t : Session}, s.Numbered → ScopeStep s t → P s → P t)
    (commands : List Command) : P (s.run commands).1 := by
  induction commands generalizing s with
  | nil => exact hs
  | cons command commands ih => exact ih (h.step command) (hstep h (h.scopeStep command) hs)

theorem Numbered.scopes_kept_run (h : s.Numbered) {p : Nat × Nat} (hi : s.scopes[i]? = some p)
    (commands : List Command) : (s.run commands).1.scopes[i]? = some p :=
  h.run_induction hi (fun _ hst hi ↦ hst.scopes_kept hi) commands

/-! ## The values of the chains -/

variable {P : Decimal → Prop} {command : Command}

/-- The values of all bracketed chains have a property. -/
def BracketValues (P : Decimal → Prop) (s : Session) : Prop := ∀ c ∈ s.brackets, c.Values P

/-- A command keeps the property if the value that it begins with has it. -/
theorem Numbered.bracketValues_step (h : s.Numbered) (hP : ∀ d : Decimal, d.Fits → P d)
    (hs : s.BracketValues P) (hbegin : ∀ x, command = .beginBracket x → x.Satisfies P)
    (hcall : ∀ on call, command = .scope on (.call call) → ∀ x ∈ call.firsts, x.Satisfies P) :
    (s.step command).1.BracketValues P := by
  have hst := h.bracketStep command
  generalize (s.step command).2.outcome = outcome at hst
  generalize (s.step command).1 = t at hst ⊢
  cases hst with
  | idle same =>
    rw [BracketValues, same.brackets]
    exact hs
  | begun begin_ok =>
    intro d hd
    rcases List.mem_append.1 hd with hold | hnew
    · exact hs d hold
    · rw [List.mem_singleton.1 hnew]
      exact Chain.values_begin begin_ok (hbegin _ rfl)
  | called _ _ chain_eq move _ =>
    intro d hd
    rcases List.mem_or_eq_of_mem_set hd with hold | rfl
    · exact hs d hold
    · exact (hs _ (List.mem_of_getElem? chain_eq)).move hP (hcall _ _ rfl) move

end Session

end ChainedDecimal
