import ChainedDecimal.Proofs.Bracket.Meaning
import ChainedDecimal.Proofs.Session.Answers
import ChainedDecimal.Proofs.Session.Walks

/-!
# What bracketed steps mean in a session

Steps may be written on any exposed scope, in the middle of whatever else goes on. They do there
what they mean: they replace the value of the scope by their own and lead back to the scope, or fail
with their own fault. All other scopes stay as they were, of this chain and of the others, in either
case.
-/

namespace ChainedDecimal

namespace Session

open ChainedDecimal.Bracket

/-- An attempt at steps on the scope at a place did what the steps mean. -/
structure Evaluates (s : Session) (i : Nat) (v : View) (f : Steps) (a : Attempt) : Prop where
  /-- The steps succeed, or fail with their fault. -/
  fault_eq : a.fault =
    match f.eval v.value with
    | .ok _ => none
    | .error e => some e
  /-- If they succeed, the scope has their value and is otherwise the same. -/
  scope_eq : ∀ {w}, f.eval v.value = .ok w → a.session.scope? i = some { v with value := w }
  /-- If they succeed, they lead back to the scope. -/
  returned : ∀ {w}, f.eval v.value = .ok w → ∀ r ∈ a.replies.getLast?,
    r.outcome = .ok (.scope (scopeName i))
  /-- If they succeed, all that they opened is closed. -/
  new_closed : ∀ {w}, f.eval v.value = .ok w → ∀ {j}, s.scopes.length ≤ j →
    j < a.session.scopes.length → a.session.IsClosed j
  /-- The other scopes stay as they were. -/
  others_eq : ∀ {j u}, j ≠ i → s.scope? j = some u → a.session.scope? j = some u
  /-- Nothing but scopes has changed. -/
  rest_eq : a.session = { s with
    brackets := a.session.brackets
    scopes := a.session.scopes
    latestScope := a.session.latestScope }

variable {s t : Session} {on : Option String} {i j k id : Nat} {c d : Chain} {f : Steps}
  {u v : View}

/-! ## Scopes seen before and after -/

/-- The links of a scope name scopes that there are. -/
theorem link_lt (h : c.WellNested) (hu : c.view? id = some u) {p : Nat}
    (hp : u.parent = some p ∨ u.child = some p) : p < c.size := by
  have hopen : ∀ {n : Nat}, c.openIds[n]? = some p → p < c.size := fun hn ↦
    (h.mem_ids_iff p).1 (List.mem_append_left _ (List.mem_of_getElem? hn))
  rcases h.view?_cases hu with ⟨n, -, hview⟩ | ⟨x, -, -, rfl⟩
  · rw [Chain.openView_parent hview, Chain.openView_child hview] at hp
    rcases hp with hp | hp
    · exact hopen hp
    · split at hp
      · cases hp
      · exact hopen hp
  · rcases hp with hp | hp <;> cases hp

/-- A scope keeps its place when the table grows. -/
theorem placeIn?_of_prefix (hs : s.Numbered) (ht : t.Numbered) {new : List (Nat × Nat)}
    (hnew : t.scopes = s.scopes ++ new) (hc : s.brackets[k]? = some c) (hid : id < c.size) :
    t.placeIn? k id = s.placeIn? k id := by
  obtain ⟨i, hi⟩ := hs.exists_place hc hid
  have hi' : t.scopes[i]? = some (k, id) := by
    rw [hnew, List.getElem?_append_left (List.getElem?_eq_some_iff.1 hi).1, hi]
  rw [(placeIn?_eq_some_iff hs.nodup_scopes).2 hi, (placeIn?_eq_some_iff ht.nodup_scopes).2 hi']

/-- A scope that its chain shows with another value is shown so in the session. -/
theorem scope?_of_view? (hs : s.Numbered) (ht : t.Numbered) {new : List (Nat × Nat)}
    (hnew : t.scopes = s.scopes ++ new) (hi : s.scopes[i]? = some (k, id))
    (hc : s.brackets[k]? = some c) (hd : t.brackets[k]? = some d) (hu : c.view? id = some u)
    {x : Option Decimal} (hu' : d.view? id = some { u with value := x })
    (hv : s.scope? i = some v) : t.scope? i = some { v with value := x } := by
  have hi' : t.scopes[i]? = some (k, id) := by
    rw [hnew, List.getElem?_append_left (List.getElem?_eq_some_iff.1 hi).1, hi]
  have hplaces : ∀ {link : Option Nat}, (∀ p, link = some p → p < c.size) →
      link.bind (t.placeIn? k) = link.bind (s.placeIn? k) := by
    rintro (_ | p) hlink
    · rfl
    · exact placeIn?_of_prefix hs ht hnew hc (hlink p rfl)
  have hwell := hs.wellNested_of_get hc
  have hparent := hplaces fun p hp ↦ link_lt hwell hu (Or.inl hp)
  have hchild := hplaces fun p hp ↦ link_lt hwell hu (Or.inr hp)
  obtain ⟨k', id', c', u', hi'', hc', hu'', rfl⟩ := scope?_eq_some_iff.1 hv
  rw [hi, Option.some.injEq, Prod.mk.injEq] at hi''
  obtain ⟨rfl, rfl⟩ := hi''
  rw [hc, Option.some.injEq] at hc'
  subst hc'
  rw [hu, Option.some.injEq] at hu''
  subst hu''
  -- The links name places, and these have not changed.
  refine scope?_eq_some_iff.2 ⟨k, id, d, _, hi', hd, hu', ?_⟩
  rw [hparent, hchild]

/-- Inside the exposed scope of a chain nothing happens to any other scope. -/
theorem scope?_of_inside (hs : s.Numbered) (ht : t.Numbered) (hbeside : Beside s t k)
    (hi : s.scopes[i]? = some (k, c.exposed.id)) (hc : s.brackets[k]? = some c)
    (hd : t.brackets[k]? = some d) (hin : c.Inside d) (hj : j ≠ i) (hu : s.scope? j = some u) :
    t.scope? j = some u := by
  obtain ⟨new, hnew, -⟩ := hbeside.scopes_eq
  obtain ⟨l, id, c', x, hjl, hc', hx, rfl⟩ := scope?_eq_some_iff.1 hu
  by_cases hlk : l = k
  · subst hlk
    rw [hc, Option.some.injEq] at hc'
    subst hc'
    have hid : c.exposed.id ≠ id := by
      rintro rfl
      have hlt : j < s.scopes.length := (List.getElem?_eq_some_iff.1 hjl).1
      exact hj ((List.getElem?_inj hlt hs.nodup_scopes).1 (by rw [hjl, hi]))
    have hx' := hin.view?_eq (hs.wellNested_of_get hc) (ht.wellNested_of_get hd) hid hx
    exact scope?_of_view? hs ht hnew hjl hc hd hx hx' hu
  · have hd' : t.brackets[l]? = some c' := by rw [hbeside.others_eq l hlk, hc']
    exact scope?_of_view? hs ht hnew hjl hc' hd' hx hx hu

/-! ## Steps -/

/-- **Steps on an exposed scope do what they mean.** -/
theorem Numbered.evaluates (h : s.Numbered) (hv : s.scope? i = some v) (hopen : v.closed = false)
    (hchild : v.child = none) (f : Steps) :
    s.Evaluates i v f (s.attempt (onward (some (scopeName i)) f.calls)) := by
  obtain ⟨k, hzero⟩ := h.isExposed_iff.1 ⟨v, hv, hopen, hchild⟩
  obtain ⟨c, u, hc, hu, hview⟩ := h.eq_of_scope? hzero hv
  cases hu
  have hi : s.scopes[i]? = some (k, c.exposed.id) := by
    obtain ⟨c', id, hi, hc', hid⟩ := hzero
    rw [hc, Option.some.injEq] at hc'
    subst hc'
    cases hid
    exact hi
  have hvalue : v.value = c.exposed.value := by rw [hview]; rfl
  have hlt : i < s.scopes.length := (List.getElem?_eq_some_iff.1 hi).1
  have hholds : s.Holds (some (scopeName i)) k c := ⟨hc, i, scopePlace?_scopeName hlt, hi⟩
  have ht := h.attempt (onward (some (scopeName i)) f.calls)
  have hfollowed := h.followed hholds f.calls
  have hrealized := f.walk_calls c
  generalize s.attempt (onward (some (scopeName i)) f.calls) = a at ht hfollowed ⊢
  generalize c.walk f.calls = w at hfollowed hrealized
  have hbeside := hfollowed.beside
  obtain ⟨new, hnew, hnewk⟩ := hbeside.scopes_eq
  rw [Steps.Realized, ← hvalue] at hrealized
  cases heval : f.eval v.value with
  | error e =>
    rw [heval] at hrealized
    obtain ⟨d, rfl, hin⟩ := hrealized
    constructor
    · rw [heval, hfollowed.fault_eq]
    · intro x hx
      rw [heval] at hx
      cases hx
    · intro x hx
      rw [heval] at hx
      cases hx
    · intro x hx
      rw [heval] at hx
      cases hx
    · intro j u hj hu
      exact scope?_of_inside h ht hbeside hi hc hfollowed.chain_eq hin hj hu
    · exact hbeside.rest_eq
  | ok x =>
    rw [heval] at hrealized
    obtain ⟨more, rfl⟩ := hrealized
    have hd := hfollowed.chain_eq
    have hi' : a.session.scopes[i]? = some (k, c.exposed.id) := by
      rw [hnew, List.getElem?_append_left hlt, hi]
    constructor
    · rw [heval, hfollowed.fault_eq]
    · intro x' hx
      rw [heval] at hx
      cases hx
      exact scope?_of_view? h ht hnew hi hc hd (view?_exposed c) (view?_exposed _) hv
    · intro x' _ r hr
      obtain ⟨j, hout, -, hj⟩ := hfollowed.returned rfl r hr
      have hij : i = j := by
        have hlt' : i < a.session.scopes.length := (List.getElem?_eq_some_iff.1 hi').1
        exact (List.getElem?_inj hlt' ht.nodup_scopes).1 (by rw [hi', hj]; rfl)
      rw [hout, hij]
    · intro x' _ j hle hj
      obtain ⟨y, hy⟩ := ht.exists_scope?_iff.2 hj
      rcases ht.scope?_cases hy with ⟨l, n, d, id, hjl, hd', hid⟩ | ⟨z, rfl⟩
      · -- The open scopes of the chain are those before, and each had its place already.
        have hmem : (l, id) ∈ new := by
          rw [hnew, List.getElem?_append_right hle] at hjl
          exact List.mem_of_getElem? hjl
        obtain rfl := hnewk _ hmem
        rw [hd, Option.some.injEq] at hd'
        subst hd'
        have hidc : id ∈ c.ids := List.mem_append_left _ (List.mem_of_getElem? hid)
        have hlt' := ((h.wellNested_of_get hc).mem_ids_iff id).1 hidc
        have hold := (h.mem_scopes_iff _ _).2 ⟨c, hc, hlt'⟩
        have hnodup := ht.nodup_scopes
        rw [hnew, List.nodup_append] at hnodup
        exact absurd rfl (hnodup.2.2 _ hold _ hmem)
      · exact ⟨_, hy, rfl⟩
    · intro j u hj hu
      exact scope?_of_inside h ht hbeside hi hc hd (Chain.Inside.refl _).of_completed hj hu
    · exact hbeside.rest_eq

/-! ## Whole formulas -/

/-- The commands of a whole formula. -/
def formulaCommands (initial : Argument) (f : Steps) : List Command :=
  .beginBracket initial :: onward none f.calls ++ [.scope none .result]

/-- The formula that is reported, if the session traces formulas. -/
def formulaText (s : Session) (initial : Argument) (f : Steps) : Option String :=
  if s.settings.tracing then
    some (f.record 0 (.ofValue? initial.toDecimal?.toOption.join)).render
  else none

theorem Numbered.begun (h : s.Numbered) (initial : Argument) (f : Steps) :
    s.Begun bracketEngine (s.formulaText initial f) (.scope none .result) initial f
      (s.attempt (.beginBracket initial :: onward none f.calls)) := by
  cases hfirst : initial.toDecimal? with
  | error e =>
    have hbegin : Chain.begin initial s.settings.tracing = .error e := by
      rw [Chain.begin, hfirst]
      rfl
    exact begun_of_refused hfirst (beginBracket_error hbegin)
  | ok first =>
    obtain ⟨c, hbegin, hc⟩ : ∃ c, Chain.begin initial s.settings.tracing = .ok c ∧
        c = ⟨⟨0, first, 0⟩, [], [],
          if s.settings.tracing then some (.ofValue? first) else none⟩ := by
      rw [Chain.begin, hfirst]
      exact ⟨_, rfl, rfl⟩
    have hvalue : c.exposed.value = first := by rw [hc]
    have hstart : c.exposed.start = 0 := by rw [hc]
    have hnumbered := h.withNewBracket hbegin
    have hholds := holds_withNewBracket s c
    have hfollowed := hnumbered.followed hholds f.calls
    have hlatest := hnumbered.holds_attempt hholds f.calls
    have hrealized := f.walk_calls c
    rw [Steps.Realized, hvalue, hstart] at hrealized
    generalize c.walk f.calls = w at hfollowed hlatest hrealized
    have hend := hfollowed.fault_eq
    have hsettings :
        ((s.withNewBracket c).attempt (onward none f.calls)).session.settings = s.settings := by
      rw [hfollowed.beside.rest_eq]
      rfl
    refine begun_of_accepted ?_ hfirst (beginBracket_ok hbegin) hsettings hfollowed.events_eq ?_
    · cases heval : f.eval first with
      | error e =>
        rw [heval] at hrealized
        obtain ⟨d, rfl, -⟩ := hrealized
        exact hend
      | ok x =>
        rw [heval] at hrealized
        obtain ⟨more, rfl⟩ := hrealized
        have hjoin : initial.toDecimal?.toOption.join = first := by
          rw [hfirst]
          cases first <;> rfl
        have hformula : (c.completed x more (f.record 0)).formula? = s.formulaText initial f := by
          rw [formulaText, hjoin, Chain.formula?, hc]
          cases s.settings.tracing <;> rfl
        rw [← hformula]
        exact ⟨hend, hlatest.reads (by rw [hc]; rfl)⟩
    · rw [hfollowed.values_eq]
      cases heval : f.eval first with
      | error e =>
        rw [heval] at hrealized
        obtain ⟨d, rfl, -⟩ := hrealized
        rfl
      | ok x =>
        rw [heval] at hrealized
        obtain ⟨more, rfl⟩ := hrealized
        rfl

/-- **A formula has the result that it means.** -/
theorem Numbered.answers (h : s.Numbered) (initial : Argument) (f : Steps) :
    s.Answers bracketEngine (s.formulaText initial f) (initial.toDecimal?.bind f.eval)
      (s.attempt (formulaCommands initial f)) :=
  (h.begun initial f).answers

/-- **Bracketed formulas mean what they say.** In every session that any commands lead to, steps on
an exposed scope do what they mean and touch nothing else, and a formula from its beginning to its
result gives what it means. -/
theorem evaluates_and_answers_of_run (commands : List Command) (f : Steps) :
    (∀ {i v}, (initial.run commands).1.scope? i = some v → v.closed = false → v.child = none →
      (initial.run commands).1.Evaluates i v f
        ((initial.run commands).1.attempt (onward (some (scopeName i)) f.calls))) ∧
    ∀ x, (initial.run commands).1.Answers bracketEngine ((initial.run commands).1.formulaText x f)
      (x.toDecimal?.bind f.eval) ((initial.run commands).1.attempt (formulaCommands x f)) := by
  have h := Numbered.initial.run commands
  exact ⟨fun hv hopen hchild ↦ h.evaluates hv hopen hchild f, fun x ↦ h.answers x f⟩

/-- A quotient whose left operand is missing, rounded behind it. -/
def sampleSteps : Steps :=
  .group (.binary .divide) (.int 2) (.int 3) (.binary .multiply (.int 3) .absent .done)
    (.unary .round (.int 1) .done)

/-- The steps are carried out in a nested scope, the enclosing one having a value. -/
theorem evaluates_sampleSteps :
    let s := (Session.initial.run [.beginBracket (.int 7),
      .scope none (.call (.openGroup .plain .absent .absent))]).1
    ∃ v, s.scope? 1 = some v ∧ v.closed = false ∧ v.child = none ∧
      s.Evaluates 1 v sampleSteps (s.attempt (onward (some (scopeName 1)) sampleSteps.calls)) :=
  ⟨_, rfl, rfl, rfl, (evaluates_and_answers_of_run _ sampleSteps).1 rfl rfl rfl⟩

end Session

end ChainedDecimal
