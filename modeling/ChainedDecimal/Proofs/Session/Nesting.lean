import ChainedDecimal.Proofs.Bracket.Nesting
import ChainedDecimal.Proofs.Session.Calls
import ChainedDecimal.Proofs.Session.Links

/-!
# Malformed nesting is detected

A call is refused as malformed exactly if the parentheses are in fact malformed, as far as can be
seen of the scopes. Over a sequence of calls on one chain this comes to what a reader would expect
of parentheses: the depth counts them, none is closed that was not opened, and a result is given
only for a balanced word.
-/

namespace ChainedDecimal

namespace Session

open ChainedDecimal.Bracket

/-- Of some calls those that succeeded, as the replies tell. -/
def acceptedCalls (calls : List Call) (replies : List Reply) : List Call :=
  ((calls.zip replies).filter fun p ↦ p.2.outcome.isOk).map Prod.fst

/-- The commands that carry out calls, each on the scope that the one before led to. -/
def onLatest (calls : List Call) : List Command := calls.map fun call ↦ .scope none (.call call)

/-- The latest scope is where a word of calls leads to, and goes on as the word allows. -/
structure EndsAt (s : Session) (word : List Call) : Prop where
  /-- The latest scope is exposed, and its depth is the number of groups that are open. -/
  depth_eq : ∃ i v, s.scopePlace? none = some i ∧ s.scope? i = some v ∧ v.closed = false ∧
    v.child = none ∧ v.depth + word.countP Call.closes = word.countP Call.opens
  /-- A group is closed only if one is open. -/
  lt_of_close : (s.step (.scope none (.call .close))).2.outcome.isOk = true →
    word.countP Call.closes < word.countP Call.opens
  /-- A result is refused as malformed exactly if the word is not balanced. -/
  isMalformed_result_iff :
    IsMalformed (s.step (.scope none .result)).2.outcome ↔ ¬Balanced word
  /-- A result is given only if the word is balanced. -/
  balanced_of_result : (s.step (.scope none .result)).2.outcome.isOk = true → Balanced word

/-- Malformed nesting is detected, and nothing else is taken for it. -/
structure NestingChecked (s : Session) : Prop where
  /-- On a scope that is closed or has a child, every call is malformed. -/
  not_exposed : ∀ {on i v}, s.scopePlace? on = some i → s.scope? i = some v →
    v.closed = true ∨ v.child ≠ none →
      ∀ call, IsMalformed (s.step (.scope on (.call call))).2.outcome
  /-- On an exposed scope no call but closing is malformed. -/
  exposed : ∀ {on i v}, s.scopePlace? on = some i → s.scope? i = some v →
    v.closed = false → v.child = none →
      ∀ call, call ≠ .close → ¬IsMalformed (s.step (.scope on (.call call))).2.outcome
  /-- Closing is malformed at a root, and where a scale is missing. -/
  close_iff : ∀ {on i v}, s.scopePlace? on = some i → s.scope? i = some v →
    v.closed = false → v.child = none →
      (IsMalformed (s.step (.scope on (.call .close))).2.outcome ↔
        v.parent = none ∨ ∃ p w, v.parent = some p ∧ s.scope? p = some w ∧
          (w.pending = .binary .divide ∨ w.pending = .unary .round) ∧ w.scale = none)
  /-- A result is malformed unless it is read from a root that is exposed. -/
  result_iff : ∀ {on i v}, s.scopePlace? on = some i → s.scope? i = some v →
    (IsMalformed (s.step (.scope on .result)).2.outcome ↔
      v.closed = true ∨ v.child ≠ none ∨ v.parent ≠ none)
  /-- Any calls after a beginning lead to where the accepted ones lead to. -/
  run : ∀ {x name}, (s.step (.beginBracket x)).2.outcome = .ok (.scope name) → ∀ calls,
    ((s.step (.beginBracket x)).1.run (onLatest calls)).1.EndsAt
      (acceptedCalls calls ((s.step (.beginBracket x)).1.run (onLatest calls)).2)
  /-- A division or a rounding that is opened without a scale is never closed, whatever follows, and
  the calculation that it is part of never has a result. -/
  no_scale : ∀ {on op operand name}, op.needsScale = true →
    (s.step (.scope on (.call (.openGroup op operand .absent)))).2.outcome = .ok (.scope name) →
    ∃ g, name = scopeName g ∧ ∀ after,
      let t := ((s.step (.scope on (.call (.openGroup op operand .absent)))).1.run after).1
      t.IsOpen g ∧
      IsMalformed (t.step (.scope (some name) (.call .close))).2.outcome ∧
      ∀ {i}, t.treeOf? i = t.treeOf? g →
        IsMalformed (t.step (.scope (some (scopeName i)) .result)).2.outcome

variable {s t : Session} {on : Option String} {i k id : Nat} {c c' : Chain} {call : Call} {v : View}

/-! ## What a view says of the chain -/

/-- The scope is the exposed one of its chain. -/
theorem Numbered.exposed_id_eq_iff (h : s.Numbered) (hi : s.scopes[i]? = some (k, id))
    (hc : s.brackets[k]? = some c) (hv : s.scope? i = some v) :
    c.exposed.id = id ↔ v.closed = false ∧ v.child = none := by
  have hzero : c.openIds[0]? = some c.exposed.id := rfl
  constructor
  · rintro rfl
    obtain ⟨w, hw, hexposed⟩ := h.isExposed_iff.2 ⟨k, c, _, hi, hc, hzero⟩
    rw [hv, Option.some.injEq] at hw
    rw [hw]
    exact hexposed
  · intro hexposed
    obtain ⟨k', c', id', hi', hc', hid'⟩ := h.isExposed_iff.1 ⟨v, hv, hexposed⟩
    rw [hi, Option.some.injEq, Prod.mk.injEq] at hi'
    obtain ⟨rfl, rfl⟩ := hi'
    rw [hc, Option.some.injEq] at hc'
    subst hc'
    rw [hzero, Option.some.injEq] at hid'
    exact hid'

theorem Numbered.exposed_id_ne_iff (h : s.Numbered) (hi : s.scopes[i]? = some (k, id))
    (hc : s.brackets[k]? = some c) (hv : s.scope? i = some v) :
    c.exposed.id ≠ id ↔ v.closed = true ∨ v.child ≠ none := by
  refine (not_congr (h.exposed_id_eq_iff hi hc hv)).trans ?_
  rw [Decidable.not_and_iff_or_not, Bool.not_eq_false]

/-- The parent of an exposed scope is the innermost enclosing one. -/
theorem Numbered.parent_of_exposed (h : s.Numbered) (hi : s.scopes[i]? = some (k, c.exposed.id))
    (hc : s.brackets[k]? = some c) (hv : s.scope? i = some v) :
    (c.enclosing = [] ∧ v.parent = none) ∨ ∃ w rest p u, c.enclosing = w :: rest ∧
      v.parent = some p ∧ s.scope? p = some u ∧ u.pending = w.pending ∧ u.scale = w.scale := by
  have hzero : s.OpenAt i k 0 := ⟨c, _, hi, hc, rfl⟩
  have hlen := Chain.length_openIds c
  cases henc : c.enclosing with
  | nil =>
    refine Or.inl ⟨rfl, ?_⟩
    obtain ⟨c', u, hc', hu, rfl⟩ := h.eq_of_scope? hzero hv
    rw [hc, Option.some.injEq] at hc'
    subst hc'
    have hnone : c.openIds[0 + 1]? = none := by
      rw [List.getElem?_eq_none_iff, hlen, henc]
      exact Nat.le_refl _
    rw [Chain.openView_parent hu, hnone]
    rfl
  | cons w rest =>
    rw [henc, List.length_cons] at hlen
    obtain ⟨p, hp⟩ := h.exists_openAt (n := 1) hc (by omega)
    obtain ⟨v', hv', hparent⟩ := h.parentLink_iff.2 ⟨k, 0, hzero, hp⟩
    rw [hv, Option.some.injEq] at hv'
    subst hv'
    obtain ⟨c', u, hc', hu, hscope⟩ := h.scope?_of_openAt hp
    rw [hc, Option.some.injEq] at hc'
    subst hc'
    rw [Chain.openView, henc] at hu
    cases hu
    exact Or.inr ⟨w, rest, p, _, rfl, hparent, hscope, rfl, rfl⟩

/-! ## One call -/

theorem exists_of_scope? (hv : s.scope? i = some v) :
    ∃ k id c, s.scopes[i]? = some (k, id) ∧ s.brackets[k]? = some c := by
  obtain ⟨k, id, c, u, hi, hc, -⟩ := scope?_eq_some_iff.1 hv
  exact ⟨k, id, c, hi, hc⟩

/-- Each call is malformed exactly as far as the views say. -/
theorem Numbered.isMalformed_call_iff (h : s.Numbered) (hon : s.scopePlace? on = some i)
    (hv : s.scope? i = some v) :
    IsMalformed (s.step (.scope on (.call call))).2.outcome ↔
      (v.closed = true ∨ v.child ≠ none) ∨ call = .close ∧ (v.parent = none ∨
        ∃ p w, v.parent = some p ∧ s.scope? p = some w ∧
          (w.pending = .binary .divide ∨ w.pending = .unary .round) ∧ w.scale = none) := by
  obtain ⟨k, id, c, hi, hc⟩ := exists_of_scope? hv
  rw [h.isMalformed_step_call hon hi hc]
  rw [← h.exposed_id_ne_iff hi hc hv]
  by_cases hid : c.exposed.id = id
  · subst hid
    rw [Chain.call_exposed, Chain.isMalformed_act_iff]
    simp only [ne_eq, not_true_eq_false, false_or]
    refine and_congr_right fun _ ↦ ?_
    rcases h.parent_of_exposed hi hc hv with
      ⟨henc, hparent⟩ | ⟨w, rest, p, u, henc, hparent, hu, hpending, hscale⟩
    · simp [henc, hparent]
    · simp [henc, hparent, hu, hpending, hscale, Operator.needsScale_iff]
  · exact iff_of_true (Chain.isMalformed_call_of_not_exposed hid) (Or.inl hid)

theorem Numbered.isMalformed_result_iff (h : s.Numbered) (hon : s.scopePlace? on = some i)
    (hv : s.scope? i = some v) :
    IsMalformed (s.step (.scope on .result)).2.outcome ↔
      v.closed = true ∨ v.child ≠ none ∨ v.parent ≠ none := by
  obtain ⟨k, id, c, hi, hc⟩ := exists_of_scope? hv
  rw [isMalformed_step_result hon hi hc, Chain.isMalformed_result_iff, ← or_assoc]
  rw [← h.exposed_id_ne_iff hi hc hv]
  by_cases hid : c.exposed.id = id
  · subst hid
    rcases h.parent_of_exposed hi hc hv with
      ⟨henc, hparent⟩ | ⟨w, rest, p, u, henc, hparent, -⟩
    · simp [henc, hparent]
    · simp [henc, hparent]
  · exact iff_of_true (Or.inl hid) (Or.inl hid)

/-! ## Many calls -/

theorem acceptedCalls_cons (call : Call) (calls : List Call) (reply : Reply)
    (replies : List Reply) :
    acceptedCalls (call :: calls) (reply :: replies) =
      (if reply.outcome.isOk = true then [call] else []) ++ acceptedCalls calls replies := by
  rw [acceptedCalls, List.zip_cons_cons, List.filter_cons]
  split
  · rfl
  · rfl

/-- The accepted calls continue the word, and what they leave open is what the chain shows. -/
theorem Numbered.holds_run (h : s.Numbered) {word : List Call} (hs : s.Holds none k c)
    (hword : Unclosed word c.enclosing) (calls : List Call) :
    ∃ c', (s.run (onLatest calls)).1.Holds none k c' ∧
      Unclosed (word ++ acceptedCalls calls (s.run (onLatest calls)).2) c'.enclosing := by
  induction calls generalizing s c word with
  | nil => exact ⟨c, hs, by rwa [onLatest, acceptedCalls, List.zip_nil_left, List.filter_nil,
      List.map_nil, List.append_nil]⟩
  | cons call calls ih =>
    have hstep := h.step (.scope none (.call call))
    rw [onLatest, List.map_cons, run_cons, acceptedCalls_cons]
    cases hact : c.act call with
    | error f =>
      obtain ⟨i, -, hfail⟩ := hs.step_error hact
      rw [hfail]
      -- A call that fails changes neither the word nor the chain.
      exact ih h hs hword
    | ok c' =>
      obtain ⟨i, j, -, hj, hok⟩ := h.step_of_holds hs hact
      rw [hok] at hstep ⊢
      have hrest := ih hstep (holds_afterCall hs.chain_eq hj)
        ((Chain.act_eq_ok_iff.1 hact).unclosed hword)
      rw [List.append_assoc] at hrest
      exact hrest

/-- A chain whose word leaves open what encloses the exposed scope goes on as the word allows. -/
theorem Numbered.endsAt (h : s.Numbered) {word : List Call} (hs : s.Holds none k c)
    (hword : Unclosed word c.enclosing) : s.EndsAt word := by
  obtain ⟨i, hlatest, hi⟩ := hs.place_eq
  have hc := hs.chain_eq
  have hcount := hword.countP_closes
  have hzero : s.OpenAt i k 0 := ⟨c, _, hi, hc, rfl⟩
  have hresult : IsMalformed (s.step (.scope none .result)).2.outcome ↔ ¬Balanced word := by
    rw [isMalformed_step_result hlatest hi hc, Chain.isMalformed_result_iff, hword.balanced_iff]
    simp
  refine ⟨?_, ?_, hresult, ?_⟩
  · obtain ⟨v, hv, hopen, hchild⟩ := h.isExposed_iff.2 ⟨k, hzero⟩
    obtain ⟨c', u, hc', hu, rfl⟩ := h.eq_of_scope? hzero hv
    rw [hc, Option.some.injEq] at hc'
    subst hc'
    have hdepth := Chain.openView_depth hu
    refine ⟨i, _, hlatest, hv, hopen, hchild, ?_⟩
    show u.depth + _ = _
    omega
  · intro hclose
    cases henc : c.enclosing with
    | nil =>
      have hact : c.act .close = .error .nothingToClose := by rw [Chain.act, Chain.close, henc]
      obtain ⟨i, -, hfail⟩ := hs.step_error hact
      rw [hfail] at hclose
      cases hclose
    | cons w rest =>
      rw [henc, List.length_cons] at hcount
      omega
  · intro hok
    by_contra hnot
    obtain ⟨f, hf, -⟩ := hresult.2 hnot
    rw [hf] at hok
    cases hok

/-! ## Groups without a scale -/

/-- The chain of the scope at a place cannot close the scope. -/
def Blocked (s : Session) (i : Nat) : Prop :=
  ∃ k id c, s.scopes[i]? = some (k, id) ∧ s.brackets[k]? = some c ∧ c.Blocked id

theorem Blocked.scopeStep (hi : s.Blocked i) (hst : ScopeStep s t) :
    t.Blocked i := by
  obtain ⟨k, id, c, hi, hc, hblocked⟩ := hi
  have hi' := hst.scopes_kept hi
  cases hst with
  | same same => exact ⟨k, id, c, hi', by rw [same.brackets, hc], hblocked⟩
  | @begun _ _ d =>
    have hlt : k < s.brackets.length := (List.getElem?_eq_some_iff.1 hc).1
    refine ⟨k, id, c, hi', ?_, hblocked⟩
    rw [withNewBracket, List.getElem?_append_left hlt, hc]
  | @called l j d d' _ chain_eq move =>
    -- A call on another chain does not touch the chain of the scope.
    by_cases hkl : l = k
    · subst hkl
      rw [chain_eq, Option.some.injEq] at hc
      subst hc
      exact ⟨l, id, d', hi', brackets_afterCall chain_eq, hblocked.move move⟩
    · refine ⟨k, id, c, hi', ?_, hblocked⟩
      rw [← hc]
      exact List.getElem?_set_ne hkl

theorem Blocked.run (h : s.Numbered) (hi : s.Blocked i) (commands : List Command) :
    (s.run commands).1.Blocked i :=
  h.run_induction (P := fun t ↦ t.Blocked i) hi (fun _ hst hb ↦ hb.scopeStep hst) commands

/-- Opening a group without a scale that it needs makes a scope that cannot be closed. -/
theorem Numbered.blocked_of_openGroup (h : s.Numbered) {op : Operator} {operand : Argument}
    {name : String} (hop : op.needsScale = true)
    (hout : (s.step (.scope on (.call (.openGroup op operand .absent)))).2.outcome =
      .ok (.scope name)) :
    ∃ g, name = scopeName g ∧
      (s.step (.scope on (.call (.openGroup op operand .absent)))).1.Blocked g := by
  have hok : (s.step (.scope on (.call (.openGroup op operand .absent)))).2.outcome.isOk = true :=
    by rw [hout]; rfl
  obtain ⟨i, k, c, c', j, -, hi, hc, hm, hstep, hj, hname⟩ := h.exists_of_step_call hok
  rw [hout] at hname
  cases hname
  refine ⟨j, rfl, ?_⟩
  rw [hstep]
  refine ⟨k, c'.exposed.id, c', hj, brackets_afterCall hc, ?_⟩
  cases hm with
  | openGroup scale_ok =>
    rw [Chain.openingScale, if_pos hop] at scale_ok
    cases scale_ok
    exact c.blocked_opened hop _

/-- Neither can the scope be closed by its name, nor can a result be read from its chain. -/
theorem Numbered.isMalformed_of_blocked (h : s.Numbered) (hi : s.Blocked i) :
    s.IsOpen i ∧ IsMalformed (s.step (.scope (some (scopeName i)) (.call .close))).2.outcome ∧
      ∀ {j}, s.treeOf? j = s.treeOf? i →
        IsMalformed (s.step (.scope (some (scopeName j)) .result)).2.outcome := by
  obtain ⟨k, id, c, hi, hc, hblocked⟩ := hi
  have hname : ∀ {j : Nat} {p}, s.scopes[j]? = some p →
      s.scopePlace? (some (scopeName j)) = some j :=
    fun hj ↦ scopePlace?_scopeName (List.getElem?_eq_some_iff.1 hj).1
  refine ⟨?_, ?_, fun {j} htree ↦ ?_⟩
  · obtain ⟨n, -, hid, -⟩ := hblocked
    exact h.isOpen_iff.2 ⟨k, n, c, id, hi, hc, hid⟩
  · rw [h.isMalformed_step_call (hname hi) hi hc]
    exact hblocked.isMalformed_close (h.wellNested_of_get hc)
  · rw [treeOf?, treeOf?, hi, Option.map_some, Option.map_eq_some_iff] at htree
    obtain ⟨⟨k', id'⟩, hj, rfl⟩ := htree
    rw [isMalformed_step_result (hname hj) hj hc]
    exact hblocked.isMalformed_result id'

/-! ## Every session -/

theorem Numbered.nestingChecked (h : s.Numbered) : s.NestingChecked where
  not_exposed := by
    intro on i v hon hv hnot call
    exact (h.isMalformed_call_iff hon hv).2 (Or.inl hnot)
  exposed := by
    intro on i v hon hv hopen hchild call hcall hmal
    rcases (h.isMalformed_call_iff hon hv).1 hmal with (hclosed | hcovered) | ⟨hclose, -⟩
    · rw [hopen] at hclosed
      cases hclosed
    · exact hcovered hchild
    · exact hcall hclose
  close_iff := by
    intro on i v hon hv hopen hchild
    rw [h.isMalformed_call_iff hon hv, hopen, hchild]
    simp
  result_iff := by
    intro on i v hon hv
    exact h.isMalformed_result_iff hon hv
  run := by
    intro x name hx calls
    have hstep := h.step (.beginBracket x)
    obtain ⟨c, hc⟩ : ∃ c, Chain.begin x s.settings.tracing = .ok c := by
      rw [Session.step] at hx
      cases hc : Chain.begin x s.settings.tracing with
      | error f =>
        rw [beginBracket_error hc] at hx
        cases hx
      | ok c => exact ⟨c, rfl⟩
    have hholds : (s.step (.beginBracket x)).1.Holds none s.brackets.length c := by
      rw [Session.step, beginBracket_ok hc]
      exact holds_withNewBracket s c
    -- Before the first call the word is empty, and nothing encloses the root.
    have hnothing : Unclosed [] c.enclosing := by
      obtain ⟨v, -, rfl⟩ := Fault.map_eq_ok.1 hc
      exact .nothing .nil
    obtain ⟨c', hholds', hword⟩ := hstep.holds_run hholds hnothing calls
    exact (hstep.run (onLatest calls)).endsAt hholds' hword
  no_scale := by
    intro on op operand name hop hout
    obtain ⟨g, rfl, hblocked⟩ := h.blocked_of_openGroup hop hout
    refine ⟨g, rfl, fun after ↦ ?_⟩
    have hstep := h.step (.scope on (.call (.openGroup op operand .absent)))
    exact (hstep.run after).isMalformed_of_blocked (hblocked.run hstep after)

/-- **Nesting is checked.** In every session that any commands lead to, malformed nesting is
detected, and nothing else is taken for it. -/
theorem nestingChecked_of_run (commands : List Command) :
    (initial.run commands).1.NestingChecked :=
  (Numbered.initial.run commands).nestingChecked

end Session

end ChainedDecimal
