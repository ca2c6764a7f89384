import ChainedDecimal.Proofs.Session.Calls
import ChainedDecimal.Proofs.Session.Renaming

/-!
# A chain on its own

Of a run of a session the commands on one bracketed chain can be picked out and given to another
session, in which there is nothing else. The scopes have other names there, for they are numbered in
the order in which the chain opens them. `AloneIn` says that the chain is in the same state in both
sessions and that the settings are of the same kind, and it is all that the replies depend on.

A command on another chain leaves this as it is: it changes the state of that chain, adds scopes
behind those that there are, and passes a result through the pool at most.
-/

namespace ChainedDecimal

namespace Session

open ChainedDecimal.Bracket

/-- The command as it is given where the chain at a place is alone, if it is a command on that
chain: the beginning of the chain, or a request to one of its scopes. -/
def ownCommand? (s : Session) (k : Nat) : Command → Option Command
  | .beginBracket x =>
    if s.brackets.length = k ∧ (s.beginBracket x).2.outcome.isOk = true then some (.beginBracket x)
    else none
  | .scope on request =>
    match (s.scopePlace? on).bind fun i ↦ s.scopes[i]? with
    | some (chain, id) =>
      if chain = k then some (.scope (some (scopeName id)) request) else none
    | none => none
  | _ => none

/-- The session with the same settings in which there is nothing yet. -/
def alone (s : Session) : Session := { initial with settings := s.settings }

/-- The table of scopes of a session in which there is nothing but one chain, if any. -/
def onlyScopes : Option Chain → List (Nat × Nat)
  | none => []
  | some c => (List.range c.size).map (Prod.mk 0)

/-- In the second session there is nothing but the chain at a place of the first one, if that was
begun, and the settings are of one kind. -/
structure AloneIn (s : Session) (k : Nat) (t : Session) : Prop where
  numbered : s.Numbered
  numbered_alone : t.Numbered
  kind_eq : s.settings.kind = t.settings.kind
  /-- The chain is the only one. -/
  brackets_eq : t.brackets = s.brackets[k]?.toList
  /-- Its scopes have their numbers for places. -/
  scopes_eq : t.scopes = onlyScopes s.brackets[k]?

variable {s s' t : Session} {k i id : Nat} {c c' : Chain} {command : Command}

theorem Numbered.aloneIn_alone (h : s.Numbered) (hk : s.brackets.length ≤ k) :
    s.AloneIn k s.alone := by
  have hnone : s.brackets[k]? = none := List.getElem?_eq_none hk
  refine ⟨h, Numbered.initial.of_sameScopes ⟨rfl, rfl, rfl⟩, rfl, ?_, ?_⟩
  · rw [hnone]
    rfl
  · rw [hnone]
    rfl

namespace AloneIn

/-- What leaves the chain as it is leaves it alone. -/
theorem of_left (h : s.AloneIn k t) (hs' : s'.Numbered)
    (hkind : s'.settings.kind = s.settings.kind) (hk : s'.brackets[k]? = s.brackets[k]?) :
    s'.AloneIn k t := by
  refine ⟨hs', h.numbered_alone, hkind.trans h.kind_eq, ?_, ?_⟩
  · rw [hk]
    exact h.brackets_eq
  · rw [hk]
    exact h.scopes_eq

theorem getElem?_brackets (h : s.AloneIn k t) : t.brackets[0]? = s.brackets[k]? := by
  rw [h.brackets_eq]
  cases s.brackets[k]? <;> rfl

/-! ## Names and states -/

/-- The scopes of the chain are where their numbers say. -/
theorem getElem?_scopes (h : s.AloneIn k t) (hi : s.scopes[i]? = some (k, id)) :
    t.scopes[id]? = some (0, id) := by
  obtain ⟨c, hc, hid⟩ := h.numbered.exists_chain hi
  rw [h.scopes_eq, hc, onlyScopes]
  simp [hid]

theorem scopePlace?_eq (h : s.AloneIn k t) (hi : s.scopes[i]? = some (k, id)) :
    t.scopePlace? (some (scopeName id)) = some id :=
  scopePlace?_scopeName (List.getElem?_eq_some_iff.1 (h.getElem?_scopes hi)).1

theorem named (hi : s.scopes[i]? = some (k, id)) : s.Named k (scopeName i) (scopeName id) :=
  ⟨i, id, hi, rfl, rfl⟩

/-- A number of the chain is the number of a scope in both sessions, or in none. -/
theorem rel_scopeNameIn? (h : s.AloneIn k t) (id : Nat) :
    Option.Rel (s.Named k) (s.scopeNameIn? k id) (t.scopeNameIn? 0 id) := by
  have hplace : ∀ r : Session, ∀ l, r.scopeNameIn? l id = (r.placeIn? l id).map scopeName :=
    fun _ _ ↦ rfl
  rw [hplace, hplace]
  cases hs : s.placeIn? k id with
  | some i =>
    have hi := (placeIn?_eq_some_iff h.numbered.nodup_scopes).1 hs
    have ht := (placeIn?_eq_some_iff h.numbered_alone.nodup_scopes).2 (h.getElem?_scopes hi)
    rw [ht]
    exact .some (named hi)
  | none =>
    cases ht : t.placeIn? 0 id with
    | none => exact .none
    | some j =>
      -- Then the number is one of the chain, which has a place in the other session too.
      have hj := (placeIn?_eq_some_iff h.numbered_alone.nodup_scopes).1 ht
      obtain ⟨c, hc, hid⟩ := h.numbered_alone.exists_chain hj
      rw [h.getElem?_brackets] at hc
      obtain ⟨i, hi⟩ := h.numbered.exists_place hc hid
      rw [← placeIn?_eq_some_iff h.numbered.nodup_scopes, hs] at hi
      cases hi

theorem rel_scopeState? (h : s.AloneIn k t) (hi : s.scopes[i]? = some (k, id)) :
    Option.Rel (ScopeState.Renamed (s.Named k)) (s.scopeState? i) (t.scopeState? id) := by
  have hlink : ∀ x : Option Nat,
      Option.Rel (s.Named k) (x.bind (s.scopeNameIn? k)) (x.bind (t.scopeNameIn? 0)) := by
    intro x
    cases x with
    | none => exact .none
    | some p => exact h.rel_scopeNameIn? p
  obtain ⟨c, hc, -⟩ := h.numbered.exists_chain hi
  have ht : t.brackets[0]? = some c := h.getElem?_brackets.trans hc
  simp only [scopeState?, hi, h.getElem?_scopes hi, hc, ht, Option.bind_eq_bind, Option.bind_some]
  cases c.view? id with
  | none => exact .none
  | some v => exact .some ⟨named hi, rfl, hlink v.parent, hlink v.child⟩

/-- Scopes of the chain are shown in the same states. -/
theorem renamed_scopeStates (h : s.AloneIn k t) {is ids : List Nat}
    (his : List.Forall₂ (fun i id ↦ s.scopes[i]? = some (k, id)) is ids) :
    (s.scopeStates is).Renamed (s.Named k) (t.scopeStates ids) :=
  .scopes (List.rel_filterMap (fun _ _ hi ↦ h.rel_scopeState? hi) his)

theorem renamed_scopeState (h : s.AloneIn k t) (hi : s.scopes[i]? = some (k, id)) :
    (s.scopeStates [i]).Renamed (s.Named k) (t.scopeStates [id]) :=
  h.renamed_scopeStates (.cons hi .nil)

/-! ## Other chains -/

/-- A command on another chain leaves this one as it is. -/
theorem step_other (h : s.AloneIn k t) (hon : command.onBrackets = true)
    (hother : s.ownCommand? k command = none) : (s.step command).1.AloneIn k t := by
  refine h.of_left (h.numbered.step command) (kind_step hon) ?_
  rcases onBrackets_iff.1 hon with ⟨x, rfl⟩ | ⟨on, request, rfl⟩
  · rw [step]
    cases hc : Chain.begin x s.settings.tracing with
    | error f => rw [beginBracket_error hc]
    | ok c =>
      rw [beginBracket_ok hc, withNewBracket]
      have hne : s.brackets.length ≠ k := by
        intro heq
        rw [ownCommand?, beginBracket_ok hc, if_pos ⟨heq, rfl⟩] at hother
        cases hother
      rw [List.getElem?_append]
      split
      · rfl
      · rename_i hge
        have hbeyond : k - s.brackets.length ≠ 0 := by omega
        rw [List.getElem?_eq_none (Nat.le_of_not_lt hge), List.getElem?_singleton,
          if_neg hbeyond]
  · rw [step]
    rcases s.onScope_cases on request with heq | ⟨i, l, id, c, hplace, hi, hc, heq⟩
    · rw [heq]
    · rw [heq]
      have hne : l ≠ k := by
        intro hl
        rw [ownCommand?, hplace, Option.bind_some, hi] at hother
        simp only [hl, if_true] at hother
        cases hother
      by_cases hcall : ∃ call, request = .call call
      · obtain ⟨call, rfl⟩ := hcall
        rw [askScope]
        cases hact : c.call id call with
        | error f => rw [callScope_error hact]
        | ok c' =>
          obtain ⟨j, -, hok⟩ := h.numbered.callScope_ok (i := i) hc hact
          rw [hok]
          exact List.getElem?_set_ne hne
      · rw [(SameScopes.askScope s fun call hcall' ↦ hcall ⟨call, hcall'⟩).brackets]

end AloneIn

/-! ## The chain itself -/

/-- The same was answered up to names, and afterwards the chain is alone as before. -/
structure Echoes (k : Nat) (p q : Session × Reply) : Prop where
  reply : p.2.Renamed (p.1.Named k) q.2
  alone : p.1.AloneIn k q.1

namespace AloneIn

theorem echoes_begin (h : s.AloneIn k t) {x : Argument} (hk : s.brackets.length = k)
    (hc : Chain.begin x s.settings.tracing = .ok c) :
    Echoes k (s.beginBracket x) (t.beginBracket x) := by
  have hnone : s.brackets[k]? = none := List.getElem?_eq_none (Nat.le_of_eq hk)
  have hbrackets := h.brackets_eq
  have hscopes := h.scopes_eq
  rw [hnone] at hbrackets hscopes
  have hct : Chain.begin x t.settings.tracing = .ok c := by
    rw [← (Prod.mk.inj h.kind_eq).1]
    exact hc
  obtain ⟨hroot, hsize⟩ := Chain.exposed_id_begin hc
  have hnew : (s.withNewBracket c).brackets[k]? = some c := by
    rw [withNewBracket, ← hk]
    exact List.getElem?_concat_length
  have hafter : (s.withNewBracket c).AloneIn k (t.withNewBracket c) := by
    refine ⟨h.numbered.withNewBracket hc, h.numbered_alone.withNewBracket hct, h.kind_eq, ?_, ?_⟩
    · rw [hnew, withNewBracket, hbrackets]
      rfl
    · rw [hnew, withNewBracket, hbrackets, hscopes, hroot, onlyScopes, onlyScopes, hsize]
      rfl
  have hi : (s.withNewBracket c).scopes[s.scopes.length]? = some (k, 0) := by
    rw [withNewBracket, hroot, hk]
    exact List.getElem?_concat_length
  rw [beginBracket_ok hc, beginBracket_ok hct, hscopes]
  exact ⟨⟨.ok (.scope (named hi)), hafter.renamed_scopeState hi, rfl⟩, hafter⟩

/-- After a call that both carried out the chain is alone as before. -/
theorem afterCall (h : s.AloneIn k t) {call : Call} {j j' : Nat} (hc : s.brackets[k]? = some c)
    (hm : Chain.Move c call c')
    (hj : (s.withBracket k c c').scopes[j]? = some (k, c'.exposed.id))
    (hj' : (t.withBracket 0 c c').scopes[j']? = some (0, c'.exposed.id)) :
    (s.afterCall k c c' j).AloneIn k (t.afterCall 0 c c' j') := by
  have ht : t.brackets[0]? = some c := h.getElem?_brackets.trans hc
  have hbrackets := h.brackets_eq
  have hscopes := h.scopes_eq
  have hnew : (s.afterCall k c c' j).brackets[k]? = some c' := brackets_afterCall hc
  rw [hc] at hbrackets hscopes
  refine ⟨h.numbered.afterCall hc hm hj, h.numbered_alone.afterCall ht hm hj', h.kind_eq, ?_, ?_⟩
  · rw [hnew]
    show t.brackets.set 0 c' = _
    rw [hbrackets]
    rfl
  · rw [hnew]
    show (if c.size < c'.size then t.scopes ++ [(0, c'.exposed.id)] else t.scopes) = _
    rw [hscopes, onlyScopes, onlyScopes]
    rcases hm.size_cases (h.numbered.wellNested_of_get hc) with ⟨hsize, -⟩ | ⟨hsize, hid⟩
    · rw [if_neg (by omega), hsize]
    · -- The number of the new scope is the number of scopes before.
      rw [if_pos (by omega), hsize, hid, List.range_succ, List.map_append]
      rfl

theorem echoes_call (h : s.AloneIn k t) (hi : s.scopes[i]? = some (k, id))
    (hc : s.brackets[k]? = some c) (call : Call) :
    Echoes k (s.callScope i k id c call) (t.callScope id 0 id c call) := by
  have ht : t.brackets[0]? = some c := h.getElem?_brackets.trans hc
  cases hcall : c.call id call with
  | error f =>
    rw [callScope_error hcall, callScope_error hcall]
    exact ⟨⟨.error rfl, h.renamed_scopeState hi, rfl⟩, h⟩
  | ok c' =>
    have hm := (Chain.call_eq_ok_iff.1 hcall).2
    obtain ⟨j, hj, heq⟩ := h.numbered.callScope_ok (i := i) hc hcall
    obtain ⟨j', hj', heq'⟩ := h.numbered_alone.callScope_ok (i := id) ht hcall
    have hafter := h.afterCall hc hm hj hj'
    have hnodup := hafter.numbered.nodup_scopes
    have hkept : (s.afterCall k c c' j).scopes[i]? = some (k, id) :=
      (ScopeStep.called hc hm hj).scopes_kept hi
    -- The scope to go on with has its number for a place.
    have hnumber : j' = c'.exposed.id := by
      have hplace := (placeIn?_eq_some_iff hafter.numbered_alone.nodup_scopes).2 hj'
      have hplace' := (placeIn?_eq_some_iff hafter.numbered_alone.nodup_scopes).2
        (hafter.getElem?_scopes hj)
      rw [hplace, Option.some.injEq] at hplace'
      exact hplace'
    subst hnumber
    have hsame : j = i ↔ c'.exposed.id = id := by
      have hnames := hafter.numbered.named_inj (named hj) (named hkept)
      rwa [scopeName, scopeName, scopeName, scopeName, (nameOf_injective "n").eq_iff,
        (nameOf_injective "n").eq_iff] at hnames
    rw [heq, heq']
    refine ⟨⟨.ok (.scope (named hj)), ?_, rfl⟩, hafter⟩
    by_cases hstays : j = i
    · rw [if_pos hstays, if_pos (hsame.1 hstays)]
      exact hafter.renamed_scopeState hkept
    · rw [if_neg hstays, if_neg fun heq ↦ hstays (hsame.2 heq)]
      exact hafter.renamed_scopeStates (.cons hkept (.cons hj .nil))

theorem of_sameScopes (h : s.AloneIn k t) {t' : Session} (hs : SameScopes s s')
    (ht : SameScopes t t') (hkind : s'.settings.kind = s.settings.kind)
    (hkind' : t'.settings.kind = t.settings.kind) : s'.AloneIn k t' := by
  refine ⟨h.numbered.of_sameScopes hs, h.numbered_alone.of_sameScopes ht, ?_, ?_, ?_⟩
  · rw [hkind, hkind']
    exact h.kind_eq
  · rw [ht.brackets, hs.brackets]
    exact h.brackets_eq
  · rw [ht.scopes, hs.brackets]
    exact h.scopes_eq

theorem echoes_ask (h : s.AloneIn k t) (hi : s.scopes[i]? = some (k, id))
    (hc : s.brackets[k]? = some c) (request : ScopeRequest) :
    Echoes k (s.askScope i k id c request) (t.askScope id 0 id c request) := by
  have hstates := h.renamed_scopeState hi
  cases request with
  | call call => exact h.echoes_call hi hc call
  | result =>
    rw [askScope, askScope]
    cases c.result id with
    | error f => exact ⟨⟨.error rfl, hstates, rfl⟩, h⟩
    | ok v =>
      have hread := SameScopes.read s bracketEngine c.formula? (.finite v) (s.scopeStates [i])
      have hread' := SameScopes.read t bracketEngine c.formula? (.finite v) (t.scopeStates [id])
      constructor
      · rw [hread.named_eq]
        exact renamed_read h.kind_eq hstates bracketEngine c.formula? v
      · exact h.of_sameScopes hread hread' (kind_read _ _ _ _) (kind_read _ _ _ _)
  | shown =>
    rw [askScope, askScope]
    cases c.view? id with
    | none => exact ⟨⟨.error rfl, hstates, rfl⟩, h⟩
    | some v => exact ⟨⟨.ok (.text v.shown), hstates, rfl⟩, h⟩
  | refused why => exact ⟨⟨.error rfl, hstates, rfl⟩, h⟩

/-- A command on the chain is answered as where the chain is alone. -/
theorem echoes_step (h : s.AloneIn k t) {own : Command}
    (hown : s.ownCommand? k command = some own) :
    Echoes k (s.step command) (t.step own) := by
  cases command with
  | beginBracket x =>
    rw [ownCommand?] at hown
    split at hown
    · rename_i hbegins
      obtain ⟨hk, hok⟩ := hbegins
      cases hown
      cases hc : Chain.begin x s.settings.tracing with
      | error f =>
        rw [beginBracket_error hc] at hok
        cases hok
      | ok c => exact h.echoes_begin hk hc
    · cases hown
  | scope on request =>
    rw [ownCommand?] at hown
    cases hplace : (s.scopePlace? on).bind fun i ↦ s.scopes[i]? with
    | none =>
      rw [hplace] at hown
      cases hown
    | some p =>
      obtain ⟨l, id⟩ := p
      simp only [hplace] at hown
      split at hown
      · rename_i hl
        subst hl
        cases hown
        obtain ⟨i, hon, hi⟩ := Option.bind_eq_some_iff.1 hplace
        obtain ⟨c, hc, -⟩ := h.numbered.exists_chain hi
        rw [step_scope_of_get hon hi hc, step_scope_of_get (h.scopePlace?_eq hi)
          (h.getElem?_scopes hi) (h.getElem?_brackets.trans hc)]
        exact h.echoes_ask hi hc request
      · cases hown
  | _ => cases hown

end AloneIn

end Session

end ChainedDecimal
