import ChainedDecimal.Proofs.Session.Infix

/-!
# Where a chain was begun

Whether a chain is traced is decided when it is begun, by the flag as it stands then. A bracketed
chain carries the decision in its trace, which all its scopes share. A chain with callables carries
it in its formula, and hands it on to every chain that is made of it. Here every chain is traced
back to its beginning, and from there the decision is followed through whatever comes behind.

A run is a list of commands, and a beginning is one place in it. A chain with callables may also be
put together from a value and a formula. Such a chain, and what is made of it, has no beginning.
-/

namespace ChainedDecimal

namespace Closure.Chain

variable {c c' : Chain} {v : Decimal}

/-- What is made of a chain with a finite value has one too, and is traced if the chain is. -/
theorem exists_of_join {op : BinaryOp} {operand : Operand} {scale : Argument} {notes : List Note}
    (hv : c.value = .finite v) (h : c.join op operand scale = (.ok c', notes)) :
    ∃ w : Decimal, c'.value = .finite w ∧ w.Fits ∧ c'.formula.isSome = c.formula.isSome := by
  have hextend : ∀ {x : Decimal} {text : String → String} {w : Numeral},
      op.extend c.value (.finite x) scale = .ok w → ∃ u : Decimal, w = .finite u ∧ u.Fits ∧
        (c.formula.map text).isSome = c.formula.isSome := by
    intro x text w hw
    rw [hv, BinaryOp.extend_finite] at hw
    obtain ⟨u, hu, rfl⟩ := Fault.map_eq_ok.1 hw
    exact ⟨u, rfl, BinaryOp.fits_of_apply hu, Option.isSome_map⟩
  match operand with
  | .plain x =>
    obtain ⟨x, -, hx⟩ := Fault.bind_eq_ok.1 (congrArg Prod.fst h)
    obtain ⟨w, hw, hw'⟩ := Fault.bind_eq_ok.1 hx
    cases hw'
    exact hextend hw
  | .script s =>
    obtain ⟨r, -, habsorb⟩ := Fault.bind_eq_ok.1 (congrArg Prod.fst h)
    obtain ⟨w, hw, hw'⟩ := Fault.bind_eq_ok.1 habsorb
    cases hw'
    exact hextend hw

theorem exists_of_unary {op : UnaryOp} {scale : Argument} (hv : c.value = .finite v)
    (h : c.unary op scale = .ok c') :
    ∃ w : Decimal, c'.value = .finite w ∧ w.Fits ∧ c'.formula.isSome = c.formula.isSome := by
  obtain ⟨w, hw, hw'⟩ := Fault.bind_eq_ok.1 h
  cases hw'
  rw [hv, UnaryOp.extend_finite] at hw
  obtain ⟨u, hu, rfl⟩ := Fault.map_eq_ok.1 hw
  exact ⟨u, rfl, UnaryOp.fits_of_apply hu, Option.isSome_map⟩

/-- A chain begins with the operand that it is given, or else with zero. -/
theorem exists_of_begin {initial : Argument} {traced : Bool} (h : begin initial traced = .ok c) :
    ∃ w : Decimal, c.value = .finite w ∧ (w.Fits ∨ initial.toDecimal? = .ok (some w)) ∧
      c.formula.isSome = traced := by
  obtain ⟨first, hfirst, rfl⟩ := Fault.map_eq_ok.1 h
  refine ⟨_, rfl, ?_, by cases traced <;> rfl⟩
  cases first with
  | none => exact Or.inl Decimal.fits_zero
  | some w => exact Or.inr hfirst

end Closure.Chain

namespace Session

/-! ## Beginnings of bracketed chains -/

/-- The bracketed chain at a place was begun while tracing was on, or while it was off. -/
inductive BracketBegun : List Command → Nat → Bool → Prop where
  | intro {before : List Command} {x : Argument} {name : String} (after : List Command)
      (ok : ((initial.run before).1.step (.beginBracket x)).2.outcome = .ok (.scope name)) :
      BracketBegun (before ++ .beginBracket x :: after) (initial.run before).1.brackets.length
        (initial.run before).1.settings.tracing

variable {s t : Session} {cs : List Command} {k : Nat} {flag : Bool}

/-- A bracketed chain is there, and traced or not. -/
def HasTraced (s : Session) (k : Nat) (flag : Bool) : Prop :=
  ∃ c, s.brackets[k]? = some c ∧ c.trace.isSome = flag

theorem HasTraced.of_scopeStep (h : s.HasTraced k flag) (hst : ScopeStep s t) :
    t.HasTraced k flag := by
  obtain ⟨c, hc, hflag⟩ := h
  have hlt : k < s.brackets.length := (List.getElem?_eq_some_iff.1 hc).1
  cases hst with
  | same same => exact ⟨c, by rw [same.brackets, hc], hflag⟩
  | begun =>
    refine ⟨c, ?_, hflag⟩
    rw [withNewBracket, List.getElem?_append_left hlt, hc]
  | @called l _ d d' _ chain_eq move =>
    by_cases hl : l = k
    · subst hl
      rw [chain_eq, Option.some.injEq] at hc
      subst hc
      exact ⟨d', brackets_afterCall chain_eq, move.isSome_trace.trans hflag⟩
    · exact ⟨c, (List.getElem?_set_ne hl).trans hc, hflag⟩

/-- A bracketed chain stays traced, or not, as it was begun. -/
theorem BracketBegun.hasTraced (h : BracketBegun cs k flag) :
    (initial.run cs).1.HasTraced k flag := by
  cases h with
  | @intro before x name after ok =>
    have hbegun : ((initial.run before).1.step (.beginBracket x)).1.HasTraced
        (initial.run before).1.brackets.length (initial.run before).1.settings.tracing := by
      rw [step] at ok ⊢
      cases hc : Bracket.Chain.begin x (initial.run before).1.settings.tracing with
      | error f =>
        rw [beginBracket_error hc] at ok
        cases ok
      | ok c =>
        rw [beginBracket_ok hc]
        refine ⟨c, List.getElem?_concat_length, ?_⟩
        obtain ⟨first, -, rfl⟩ := Fault.map_eq_ok.1 hc
        cases (initial.run before).1.settings.tracing <;> rfl
    rw [run_append, run_cons]
    exact ((Numbered.initial.run before).step _).run_induction
      (P := fun t ↦ t.HasTraced (initial.run before).1.brackets.length _) hbegun
      (fun _ hst h ↦ h.of_scopeStep hst) after

theorem BracketBegun.append (h : BracketBegun cs k flag) (ds : List Command) :
    BracketBegun (cs ++ ds) k flag := by
  obtain ⟨after, ok⟩ := h
  rw [List.append_assoc, List.cons_append]
  exact .intro (after ++ ds) ok

/-- Every bracketed chain was begun somewhere. -/
theorem exists_bracketBegun (h : k < (initial.run cs).1.brackets.length) :
    ∃ flag, BracketBegun cs k flag := by
  induction cs using List.reverseRecOn with
  | nil => cases h
  | append_singleton cs command ih =>
    by_cases hold : k < (initial.run cs).1.brackets.length
    · obtain ⟨flag, hflag⟩ := ih hold
      exact ⟨flag, hflag.append [command]⟩
    · have hlt : k < ((initial.run cs).1.step command).1.brackets.length := by
        rw [run_append] at h
        exact h
      have hst := (Numbered.initial.run cs).bracketStep command
      generalize houtcome : ((initial.run cs).1.step command).2.outcome = outcome at hst
      generalize ((initial.run cs).1.step command).1 = t at hst hlt
      -- Only a beginning makes a new chain.
      cases hst with
      | idle same =>
        rw [same.brackets] at hlt
        exact absurd hlt hold
      | begun =>
        rw [withNewBracket, List.length_append, List.length_singleton] at hlt
        obtain rfl : k = (initial.run cs).1.brackets.length := by omega
        exact ⟨_, .intro [] houtcome⟩
      | called =>
        have hlength := hlt.trans_eq List.length_set
        exact absurd hlength hold

/-! ## Beginnings of chains with callables -/

/-- The chain at a place goes back, through any number of operators, to one that was begun while
tracing was on, or while it was off. -/
inductive ChainBegun : List Command → Nat → Bool → Prop where
  /-- It was begun itself. -/
  | intro {before : List Command} {x : Argument} {name : String} {c : Closure.Chain}
      (after : List Command)
      (ok : ((initial.run before).1.step (.beginChain x)).2.outcome = .ok (.chain name c)) :
      ChainBegun (before ++ .beginChain x :: after) (initial.run before).1.chains.length
        (initial.run before).1.settings.tracing
  /-- It was made of another one by an operator. -/
  | made {before : List Command} {on : Option String} {request : ChainRequest} {name : String}
      {c : Closure.Chain} {i : Nat} {flag : Bool} (after : List Command)
      (origin : ChainBegun before i flag)
      (place_eq : (initial.run before).1.chainPlace? on = some i)
      (ok : ((initial.run before).1.step (.chain on request)).2.outcome = .ok (.chain name c)) :
      ChainBegun (before ++ .chain on request :: after) (initial.run before).1.chains.length flag

variable {c d : Closure.Chain} {i : Nat} {name : String}

theorem ChainBegun.append (h : ChainBegun cs i flag) (ds : List Command) :
    ChainBegun (cs ++ ds) i flag := by
  cases h with
  | intro after ok =>
    rw [List.append_assoc, List.cons_append]
    exact .intro (after ++ ds) ok
  | made after origin place_eq ok =>
    rw [List.append_assoc, List.cons_append]
    exact .made (after ++ ds) origin place_eq ok

/-- What a command can do to the chains with callables, and what it answers then. -/
inductive ChainStep (s : Session) :
    Command → Except Fault Outcome → List Closure.Chain → Prop where
  /-- Leave them as they are, and answer no chain. -/
  | same {command : Command} {outcome : Except Fault Outcome}
      (unanswered : command.onChains = true → ∀ name c, outcome ≠ .ok (.chain name c)) :
      ChainStep s command outcome s.chains
  /-- Begin one. -/
  | begun {x : Argument} {name : String} {c : Closure.Chain}
      (begin_eq : Closure.Chain.begin x s.settings.tracing = .ok c) :
      ChainStep s (.beginChain x) (.ok (.chain name c)) (s.chains ++ [c])
  /-- Put one together. -/
  | put {v : Numeral} {formula : Option String} {name : String} :
      ChainStep s (.newChain v formula) (.ok (.chain name ⟨v, formula⟩))
        (s.chains ++ [⟨v, formula⟩])
  /-- Make one of another by an operator. It is finite if the other is, and traced if it is. -/
  | made {on : Option String} {request : ChainRequest} {name : String} {i : Nat}
      {c d : Closure.Chain} (place_eq : s.chainPlace? on = some i)
      (chain_eq : s.chains[i]? = some c)
      (keeps : ∀ v : Decimal, c.value = .finite v →
        ∃ w : Decimal, d.value = .finite w ∧ w.Fits ∧ d.formula.isSome = c.formula.isSome) :
      ChainStep s (.chain on request) (.ok (.chain name d)) (s.chains ++ [d])

theorem ChainStep.failed (s : Session) (command : Command) (f : Fault) :
    ChainStep s command (.error f) s.chains := by
  refine .same fun _ name c h ↦ ?_
  cases h

theorem chainStep_askChain {on : Option String} (hplace : s.chainPlace? on = some i)
    (hi : s.chains[i]? = some c) (request : ChainRequest) :
    ChainStep s (.chain on request) (s.askChain c request).2.outcome
      (s.askChain c request).1.chains := by
  cases request with
  | join op operand scale =>
    rw [askChain]
    rcases hjoin : c.join op operand scale with ⟨f | d, notes⟩
    · exact .failed s _ f
    · exact .made hplace hi fun v hv ↦ Closure.Chain.exists_of_join hv hjoin
  | change op scale =>
    rw [askChain]
    rcases hchange : c.unary op scale with f | d
    · exact .failed s _ f
    · exact .made hplace hi fun v hv ↦ Closure.Chain.exists_of_unary hv hchange
  | result =>
    rw [askChain, (sameClosures_read _ _ _ _).chains]
    refine .same fun _ name d h ↦ ?_
    rw [read] at h
    split at h <;> cases h
  | refused why => exact .failed s _ why

theorem chainStep (s : Session) (command : Command) :
    ChainStep s command (s.step command).2.outcome (s.step command).1.chains := by
  cases hon : command.onChains with
  | false =>
    rw [chains_step hon]
    refine .same fun h ↦ ?_
    rw [hon] at h
    cases h
  | true =>
    cases command with
    | beginChain x =>
      rw [step, beginChain]
      cases hc : Closure.Chain.begin x s.settings.tracing with
      | error f => exact .failed s _ f
      | ok c => exact .begun hc
    | newChain v formula => exact .put
    | chain on request =>
      rw [step]
      cases hget : s.chain? on with
      | none =>
        rw [onChain_of_none hget]
        exact .failed s _ _
      | some c =>
        rw [onChain_of_some hget]
        obtain ⟨i, hplace, hi⟩ := Option.bind_eq_some_iff.1 hget
        exact chainStep_askChain hplace hi request
    | _ => cases hon

/-- A chain with callables is never changed. -/
theorem getElem?_chains_run (hi : s.chains[i]? = some c) (cs : List Command) :
    (s.run cs).1.chains[i]? = some c := by
  induction cs generalizing s with
  | nil => exact hi
  | cons command cs ih =>
    have hlt : i < s.chains.length := (List.getElem?_eq_some_iff.1 hi).1
    have hkept : (s.step command).1.chains[i]? = some c := by
      have hstep := s.chainStep command
      generalize (s.step command).2.outcome = outcome at hstep
      generalize (s.step command).1.chains = chains at hstep ⊢
      cases hstep with
      | same => exact hi
      | begun | put | made => rw [List.getElem?_append_left hlt, hi]
    exact ih hkept

/-- A chain that goes back to a beginning has a finite value, which fits unless it is the operand
that the chain was begun with, and it is traced as it was begun. -/
theorem ChainBegun.exists_origin (h : ChainBegun cs i flag) :
    ∃ c v, (initial.run cs).1.chains[i]? = some c ∧ c.value = .finite v ∧
      (v.Fits ∨ ∃ x, .beginChain x ∈ cs ∧ x.toDecimal? = .ok (some v)) ∧
      c.formula.isSome = flag := by
  induction h with
  | @intro before x name c after ok =>
    rw [run_append, run_cons]
    have hstep := (initial.run before).1.chainStep (.beginChain x)
    rw [ok] at hstep
    generalize hchains : ((initial.run before).1.step (.beginChain x)).1.chains = chains at hstep
    cases hstep with
    | same unanswered => exact absurd rfl (unanswered rfl name c)
    | begun begin_eq =>
      obtain ⟨v, hv, horigin, hflag⟩ := Closure.Chain.exists_of_begin begin_eq
      have hmem : .beginChain x ∈ before ++ .beginChain x :: after := by simp
      refine ⟨c, v, getElem?_chains_run ?_ after, hv,
        horigin.imp_right fun hx ↦ ⟨x, hmem, hx⟩, hflag⟩
      rw [hchains]
      exact List.getElem?_concat_length
  | @made before on request name d j flag after origin place_eq ok ih =>
    obtain ⟨c, v, hc, hv, -, hflag⟩ := ih
    rw [run_append, run_cons]
    have hstep := (initial.run before).1.chainStep (.chain on request)
    rw [ok] at hstep
    generalize hchains :
      ((initial.run before).1.step (.chain on request)).1.chains = chains at hstep
    cases hstep with
    | same unanswered => exact absurd rfl (unanswered rfl name d)
    | made place_eq' chain_eq keeps =>
      rw [place_eq, Option.some.injEq] at place_eq'
      rw [← place_eq', hc, Option.some.injEq] at chain_eq
      subst chain_eq
      obtain ⟨w, hw, hfits, hsame⟩ := keeps v hv
      refine ⟨d, w, getElem?_chains_run ?_ after, hw, Or.inl hfits, hsame.trans hflag⟩
      rw [hchains]
      exact List.getElem?_concat_length

theorem ChainBegun.exists_chain (h : ChainBegun cs i flag) :
    ∃ c v, (initial.run cs).1.chains[i]? = some c ∧ c.value = .finite v ∧
      ((∀ d ∈ cs, d.Fits) → v.Fits) ∧ c.formula.isSome = flag := by
  obtain ⟨c, v, hc, hv, horigin, hflag⟩ := h.exists_origin
  refine ⟨c, v, hc, hv, fun hall ↦ ?_, hflag⟩
  rcases horigin with hfits | ⟨x, hmem, hx⟩
  · exact hfits
  · have hfits : x.Fits := hall _ hmem
    exact Argument.fits_of_toDecimal? hfits hx

/-- Every chain goes back to a beginning, unless one was put together from a value and a formula. -/
theorem exists_chainBegun (hnone : ∀ v formula, .newChain v formula ∉ cs)
    (h : i < (initial.run cs).1.chains.length) : ∃ flag, ChainBegun cs i flag := by
  induction cs using List.reverseRecOn generalizing i with
  | nil => cases h
  | append_singleton cs command ih =>
    have hbefore : ∀ v formula, .newChain v formula ∉ cs := fun v formula hmem ↦
      hnone v formula (List.mem_append_left _ hmem)
    by_cases hold : i < (initial.run cs).1.chains.length
    · obtain ⟨flag, hflag⟩ := ih hbefore hold
      exact ⟨flag, hflag.append [command]⟩
    · rw [run_append] at h
      have hlt : i < ((initial.run cs).1.step command).1.chains.length := h
      have hlast : ∀ c : Closure.Chain, i < ((initial.run cs).1.chains ++ [c]).length →
          i = (initial.run cs).1.chains.length := by
        intro c hc
        rw [List.length_append, List.length_singleton] at hc
        omega
      have hstep := (initial.run cs).1.chainStep command
      generalize hanswer : ((initial.run cs).1.step command).2.outcome = outcome at hstep
      generalize ((initial.run cs).1.step command).1.chains = chains at hstep hlt
      cases hstep with
      | same => exact absurd hlt hold
      | begun =>
        rw [hlast _ hlt]
        exact ⟨_, .intro [] hanswer⟩
      | put => exact absurd (List.mem_append_right cs List.mem_cons_self) (hnone _ _)
      | made place_eq chain_eq =>
        obtain ⟨flag, horigin⟩ := ih hbefore (List.getElem?_eq_some_iff.1 chain_eq).1
        rw [hlast _ hlt]
        exact ⟨flag, .made [] horigin place_eq hanswer⟩

end Session

end ChainedDecimal
