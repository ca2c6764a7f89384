import ChainedDecimal.Proofs.Session.Links
import ChainedDecimal.Proofs.Session.Spelled
import ChainedDecimal.Proofs.Spelled.InPlace

/-!
# When a reported formula is an infix expression

When a result is read from a traced chain, its formula is reported as calculated from left to right.
It can be read so exactly if every group of the chain was opened in place: under a binary operator
where there was a value to join the group to, and under another operator where there was none. Then
the expression that is read has the result that is reported.

In any other place the text is not an expression. A group that replaces a value leaves the text of
that value standing before it, and a group that is joined to nothing has no text in front of its
operator, although it is calculated with a zero there.
-/

namespace ChainedDecimal

namespace Session

open ChainedDecimal.Bracket

/-! ## The groups that were opened -/

/-- A group that was opened. -/
structure Opening where
  /-- The place of the chain. -/
  chain : Nat
  /-- The operator that it was opened under. -/
  op : Operator
  /-- Whether the scope that it was opened in had a value. -/
  valued : Bool

/-- The group is joined to a value, or stands by itself where there is none. -/
def Opening.InPlace (o : Opening) : Prop := o.op.joins = o.valued

/-- The group that a call opens in a chain, on a scope with this value. -/
def openingOf (chain : Nat) (value : Option Decimal) : Call → Option Opening
  | .openGroup op _ _ => some ⟨chain, op, value.isSome⟩
  | _ => none

/-- The group that a command opens, if it succeeds. -/
def opening? (s : Session) : Command → Option Opening
  | .scope on (.call call) =>
    match (s.onScope on (.call call)).2.outcome with
    | .error _ => none
    | .ok _ => do
      let i ← s.scopePlace? on
      let (chain, _) ← s.scopes[i]?
      let c ← s.brackets[chain]?
      openingOf chain c.exposed.value call
  | _ => none

/-- The groups that some commands open, one after the other. -/
def openings (s : Session) : List Command → List Opening
  | [] => []
  | command :: commands => (s.opening? command).toList ++ (s.step command).1.openings commands

variable {s t : Session} {os : List Opening} {i k id : Nat} {c c' : Chain} {call : Call}

theorem openings_concat (s : Session) (commands : List Command) (command : Command) :
    s.openings (commands ++ [command]) =
      s.openings commands ++ ((s.run commands).1.opening? command).toList := by
  induction commands generalizing s with
  | nil => exact List.append_nil _
  | cons first commands ih =>
    rw [List.cons_append, openings, openings, ih, run_cons, List.append_assoc]

theorem openingOf_inPlace_iff (chain : Nat) (value : Option Decimal) (call : Call) :
    (∀ o ∈ (openingOf chain value call).toList, o.InPlace) ↔ call.InPlace value := by
  cases call <;> simp [openingOf, Call.InPlace, Opening.InPlace]

theorem chain_of_openingOf {chain : Nat} {value : Option Decimal} {call : Call} {o : Opening}
    (h : o ∈ (openingOf chain value call).toList) : o.chain = chain := by
  cases call with
  | openGroup op operand scale =>
    rw [openingOf, Option.toList_some, List.mem_singleton] at h
    rw [h]
  | _ => cases h

/-- A call that succeeds opens the group that it should. -/
theorem opening?_of_ok {on : Option String} {o : Outcome} (hon : s.scopePlace? on = some i)
    (hi : s.scopes[i]? = some (k, id)) (hc : s.brackets[k]? = some c)
    (hok : (s.step (.scope on (.call call))).2.outcome = .ok o) :
    s.opening? (.scope on (.call call)) = openingOf k c.exposed.value call := by
  rw [Session.step] at hok
  rw [opening?, hok, hon, Option.bind_eq_bind, Option.bind_some, hi, Option.bind_eq_bind,
    Option.bind_some]
  dsimp only
  rw [hc, Option.bind_eq_bind, Option.bind_some]

theorem opening?_of_failed {command : Command}
    (h : command.movesBrackets = true → ∃ f, (s.step command).2.outcome = .error f) :
    s.opening? command = none := by
  unfold opening?
  split
  · rename_i on call
    obtain ⟨f, hf⟩ : ∃ f, (s.onScope on (.call call)).2.outcome = .error f := h rfl
    rw [hf]
  · rfl

/-! ## What one command does -/

/-- Of each chain it is known which groups were opened in it: it is in place exactly if these
are. -/
structure Placed (s : Session) (os : List Opening) : Prop where
  /-- Groups are opened in chains that are there. -/
  chain_lt : ∀ o ∈ os, o.chain < s.brackets.length
  /-- A traced chain is in place if its groups were opened in place. -/
  inPlace_iff : ∀ {k c}, s.brackets[k]? = some c →
    (c.InPlace ↔ c.trace.isSome = true ∧ ∀ o ∈ os, o.chain = k → o.InPlace)

namespace Placed

theorem initial : Session.initial.Placed [] := by
  constructor <;> simp [Session.initial]

theorem of_sameScopes (h : s.Placed os) (hst : SameScopes s t) : t.Placed os := by
  constructor
  · rw [hst.brackets]
    exact h.chain_lt
  · rw [hst.brackets]
    exact h.inPlace_iff

/-- In a new chain no group was opened. -/
theorem withNewBracket (h : s.Placed os) {x : Argument} {traced : Bool}
    (hc : Chain.begin x traced = .ok c) : (s.withNewBracket c).Placed os := by
  have htrace : c.trace.isSome = traced := by
    obtain ⟨value, -, rfl⟩ := Fault.map_eq_ok.1 hc
    cases traced <;> rfl
  refine ⟨fun o ho ↦ ?_, fun {k d} hd ↦ ?_⟩
  · have hlt := h.chain_lt o ho
    rw [Session.withNewBracket, List.length_append, List.length_singleton]
    omega
  · rw [Session.withNewBracket, List.getElem?_append] at hd
    split at hd
    · exact h.inPlace_iff hd
    · rename_i hk
      obtain ⟨hk', rfl⟩ : k - s.brackets.length = 0 ∧ c = d := by
        simpa [List.getElem?_singleton] using hd
      rw [Chain.inPlace_begin hc, htrace]
      refine (and_iff_left fun o ho hok ↦ ?_).symm
      have hlt := h.chain_lt o ho
      omega

/-- A call adds the group that it opens, in its own chain. -/
theorem afterCall (h : s.Placed os) (htells : ∀ c ∈ s.brackets, c.TraceTells) (hs : s.Numbered)
    (hc : s.brackets[k]? = some c) (hm : Chain.Move c call c') (j : Nat) :
    (s.afterCall k c c' j).Placed (os ++ (openingOf k c.exposed.value call).toList) := by
  have hlt : k < s.brackets.length := (List.getElem?_eq_some_iff.1 hc).1
  have hlength : (s.afterCall k c c' j).brackets.length = s.brackets.length := List.length_set
  refine ⟨fun o ho ↦ ?_, fun {l d} hd ↦ ?_⟩
  · rw [hlength]
    rcases List.mem_append.1 ho with hold | hnew
    · exact h.chain_lt o hold
    · rw [chain_of_openingOf hnew]
      exact hlt
  · rw [List.forall_mem_append]
    by_cases hkl : k = l
    · subst hkl
      rw [brackets_afterCall hc, Option.some.injEq] at hd
      subst hd
      have hnew : (∀ o ∈ (openingOf k c.exposed.value call).toList, o.chain = k → o.InPlace) ↔
          call.InPlace c.exposed.value := by
        rw [← openingOf_inPlace_iff k]
        exact forall₂_congr fun o ho ↦ forall_prop_of_true (chain_of_openingOf ho)
      rw [(htells c (List.mem_of_getElem? hc)).inPlace_move (hs.wellNested_of_get hc) hm,
        h.inPlace_iff hc, hm.isSome_trace, hnew, and_assoc]
    · have hother : ∀ o ∈ (openingOf k c.exposed.value call).toList, o.chain = l → o.InPlace :=
        fun o ho hl ↦ absurd ((chain_of_openingOf ho).symm.trans hl) hkl
      have hd' : s.brackets[l]? = some d := by
        rw [← hd]
        exact (List.getElem?_set_ne hkl).symm
      rw [h.inPlace_iff hd', and_iff_left hother]

theorem step (h : s.Placed os) (htells : ∀ c ∈ s.brackets, c.TraceTells) (hs : s.Numbered)
    (command : Command) : (s.step command).1.Placed (os ++ (s.opening? command).toList) := by
  have hst := hs.bracketStep command
  generalize houtcome : (s.step command).2.outcome = outcome at hst
  generalize (s.step command).1 = t at hst ⊢
  cases hst with
  | idle same failed =>
    rw [opening?_of_failed fun hmoves ↦ houtcome ▸ failed hmoves, Option.toList_none,
      List.append_nil]
    exact h.of_sameScopes same
  | begun begin_ok =>
    rw [opening?, Option.toList_none, List.append_nil]
    · exact h.withNewBracket begin_ok
    · simp
  | @called on k i j c c' call on_eq scope_eq chain_eq move _ =>
    rw [opening?_of_ok on_eq scope_eq chain_eq houtcome]
    exact h.afterCall htells hs chain_eq move j

end Placed

/-- After any commands it is known which chains are in place. -/
theorem placed_run (commands : List Command) :
    (Session.initial.run commands).1.Placed (Session.initial.openings commands) := by
  induction commands using List.reverseRecOn with
  | nil => exact Placed.initial
  | append_singleton commands command ih =>
    rw [run_append, openings_concat]
    exact ih.step (traceTells_run commands) (Numbered.initial.run commands) command

/-! ## Reports -/

/-- Reading a result reports the formula, if there is one, whether or not the pool has an answer. -/
theorem events_read (engine : String) (formula : Option String) (v : Numeral) (status : Status) :
    (s.read engine formula v status).2.events = evaluated engine formula v := by
  unfold read
  cases s.finish v <;> rfl

/-- What is reported of a chain when its result is read. -/
theorem exists_of_evaluated {on : Option String} {engine formula result : String}
    (h : .formulaEvaluated engine formula result ∈ (s.step (.scope on .result)).2.events) :
    ∃ i k c text v, s.scopePlace? on = some i ∧ s.treeOf? i = some k ∧
      s.brackets[k]? = some c ∧ c.enclosing = [] ∧ c.exposed.value = some v ∧
      c.formula? = some text ∧ engine = bracketEngine ∧ formula = text ++ " = " ++ v.text ∧
      result = v.text := by
  rw [step] at h
  rcases s.onScope_cases on .result with heq | ⟨i, k, id, c, hon, hi, hc, heq⟩
  · rw [heq] at h
    cases h
  · rw [heq, askScope] at h
    cases hresult : c.result id with
    | error f =>
      rw [hresult] at h
      cases h
    | ok v =>
      rw [hresult, events_read] at h
      obtain ⟨-, henc, hvalue⟩ := Chain.result_eq_ok_iff.1 hresult
      cases hformula : c.formula? with
      | none =>
        rw [hformula] at h
        cases h
      | some text =>
        rw [hformula] at h
        obtain ⟨rfl, rfl, rfl⟩ := Event.formulaEvaluated.inj (List.mem_singleton.1 h)
        exact ⟨i, k, c, text, v, hon, by rw [treeOf?, hi]; rfl, hc, henc, hvalue, hformula, rfl,
          rfl, rfl⟩

/-- **A reported formula is an infix expression exactly if every group was opened in place**, and as
an expression it has the reported result. -/
theorem infix_iff_of_evaluated {commands : List Command} {on : Option String}
    {engine formula result : String}
    (h : .formulaEvaluated engine formula result ∈
      ((Session.initial.run commands).1.step (.scope on .result)).2.events) :
    ∃ i k text v, (Session.initial.run commands).1.scopePlace? on = some i ∧
      (Session.initial.run commands).1.treeOf? i = some k ∧ engine = bracketEngine ∧
      formula = text ++ " = " ++ v.text ∧ result = v.text ∧
      ((∃ e : Infix, e.text = text) ↔
        ∀ o ∈ Session.initial.openings commands, o.chain = k → o.InPlace) ∧
      ∀ e : Infix, e.text = text → e.value = .ok v := by
  obtain ⟨i, k, c, text, v, hon, hk, hc, henc, hvalue, hformula, hengine, htext, hresult⟩ :=
    exists_of_evaluated h
  have htells := traceTells_run commands c (List.mem_of_getElem? hc)
  have hspells := htells.spells henc hformula
  rw [hvalue] at hspells
  have htraced : c.trace.isSome = true := by
    obtain ⟨t, ht, -⟩ := Option.map_eq_some_iff.1 hformula
    rw [ht, Option.isSome_some]
  refine ⟨i, k, text, v, hon, hk, hengine, htext, hresult, ?_, ?_⟩
  · rw [hspells.exists_infix_iff, ← htells.inPlace_iff_formula henc hformula,
      (placed_run commands).inPlace_iff hc, and_iff_right htraced]
  · rintro e rfl
    exact hspells.value_infix

/-- A group that is joined to a value. -/
def groupBehindValue : List Command :=
  [.settings (.setTracing true), .beginBracket (.int 10),
    .scope none (.call (.openGroup (.binary .add) (.int 2) .absent)),
    .scope none (.call (.binary .multiply (.int 3) .absent)), .scope none (.call .close)]

theorem infix_groupBehindValue :
    .formulaEvaluated bracketEngine "10 + (2 * 3) = 16" "16" ∈
        ((Session.initial.run groupBehindValue).1.step (.scope none .result)).2.events ∧
      ∃ (e : Infix) (v : Decimal), "10 + (2 * 3) = 16" = e.text ++ " = " ++ v.text ∧
        e.value = .ok v := by
  have hevent : .formulaEvaluated bracketEngine "10 + (2 * 3) = 16" "16" ∈
      ((Session.initial.run groupBehindValue).1.step (.scope none .result)).2.events := by decide
  have hplaced : ∀ o ∈ Session.initial.openings groupBehindValue, o.op.joins = o.valued := by decide
  obtain ⟨_, _, text, v, -, -, -, hformula, -, hiff, hvalue⟩ := infix_iff_of_evaluated hevent
  obtain ⟨e, rfl⟩ := hiff.2 fun o ho _ ↦ hplaced o ho
  exact ⟨hevent, e, v, hformula, hvalue e rfl⟩

/-- A group that replaces a value, and whose text stands behind that of the value. -/
def groupReplacingValue : List Command :=
  [.settings (.setTracing true), .beginBracket (.int 5),
    .scope none (.call (.openGroup (.unary .negate) (.int 2) .absent)), .scope none (.call .close)]

/-- A group that is joined to a zero of which there is no text. -/
def groupJoinedToNothing : List Command :=
  [.settings (.setTracing true), .beginBracket .absent,
    .scope none (.call (.openGroup (.binary .add) (.int 3) .absent)), .scope none (.call .close)]

/-- Out of place a group makes a text that is no expression. -/
theorem not_infix_outOfPlace :
    .formulaEvaluated bracketEngine "5-(2) = -2" "-2" ∈
        ((Session.initial.run groupReplacingValue).1.step (.scope none .result)).2.events ∧
      (¬∃ e : Infix, e.text = "5-(2)") ∧
      .formulaEvaluated bracketEngine " + (3) = 3" "3" ∈
        ((Session.initial.run groupJoinedToNothing).1.step (.scope none .result)).2.events ∧
      ¬∃ e : Infix, e.text = " + (3)" := by
  have hinfix : ∀ e : Infix, TextInPlace e.text := fun e ↦
    (textInPlace_iff e.toList_text).2 e.inPlace_phrase
  have hreplacing : ("5-(2)" : String).toList = firstChars (some (.ofInt 5)) ++
      (Phrase.group .negate (some (.ofInt 2)) .done .done).chars := by decide
  have hjoined : (" + (3)" : String).toList = firstChars none ++
      (Phrase.group (.binary .add) (some (.ofInt 3)) .done .done).chars := by decide
  refine ⟨by decide, ?_, by decide, ?_⟩
  · rintro ⟨e, he⟩
    have hplace := (textInPlace_iff hreplacing).1 (he ▸ hinfix e)
    cases hplace.1
  · rintro ⟨e, he⟩
    have hplace := (textInPlace_iff hjoined).1 (he ▸ hinfix e)
    cases hplace.1

end Session

end ChainedDecimal
