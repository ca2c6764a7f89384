import ChainedDecimal.Proofs.Alike.Session
import ChainedDecimal.Proofs.Pool

/-!
# One command side by side

Alike sessions answer alike commands of a calculation alike, and are alike again afterwards. There
is one lemma for each kind of command. Where a result passes through a pool, the pools of the two
sessions have nothing to do with each other: each answers by the number that it was given.
-/

namespace ChainedDecimal

open Decimal (SameNumber)

namespace Session

variable {L : Likeness} {s t : Session}

/-! ## What is administered -/

theorem exists_askPool (s : Session) (ref : PoolRef) (p : Pool) (request : PoolRequest) :
    ∃ settings traces, (s.askPool ref p request).1 = { s with settings, traces } := by
  match request with
  | .get x =>
    rw [askPool]
    split
    · exact ⟨s.settings, s.traces, rfl⟩
    · exact ⟨_, s.traces, rfl⟩
  | .clear => exact ⟨_, s.traces, rfl⟩
  | .shown => exact ⟨s.settings, s.traces, rfl⟩
  | .refused why => exact ⟨s.settings, s.traces, rfl⟩

/-- A command that belongs to no calculation changes settings and traces only. -/
theorem exists_administered {c : Command} (hc : c.isCalculation = false) (s : Session) :
    ∃ settings traces, (s.step c).1 = { s with settings, traces } := by
  cases c with
  | newTrace initial => exact ⟨s.settings, _, rfl⟩
  | trace on request =>
    rw [step, onTrace]
    split
    · exact ⟨s.settings, s.traces, rfl⟩
    · split
      · exact ⟨s.settings, s.traces, rfl⟩
      · split
        · exact ⟨s.settings, s.traces, rfl⟩
        · exact ⟨s.settings, _, rfl⟩
  | report engine formula result => exact ⟨s.settings, s.traces, rfl⟩
  | newPool sort =>
    rw [step, newPool]
    split
    · exact ⟨s.settings, s.traces, rfl⟩
    · exact ⟨_, s.traces, rfl⟩
  | pool on request =>
    rw [step, onPool]
    split
    · exact ⟨s.settings, s.traces, rfl⟩
    · split
      · exact ⟨s.settings, s.traces, rfl⟩
      · exact exists_askPool s _ _ request
  | setVariables changes => exact ⟨_, s.traces, rfl⟩
  | settings request =>
    rw [step, onSettings]
    split
    · exact ⟨s.settings, s.traces, rfl⟩
    · exact ⟨_, s.traces, rfl⟩
  | refused why => exact ⟨s.settings, s.traces, rfl⟩
  | _ => cases hc

/-! ## Results -/

/-- A value that fits has a result, and that represents the same number. -/
theorem exists_pooled {v : Decimal} (h : v.Fits) (settings : Settings) :
    ∃ e settings', settings.pooled v = .ok (e, settings') ∧ SameNumber e v := by
  obtain ⟨e, q, hget⟩ := Pool.exists_get h settings.installedPool
  refine ⟨e, settings.setPool settings.installed q, ?_, Pool.sameNumber_of_get h hget⟩
  rw [Settings.pooled, hget]
  rfl

theorem exists_read {v : Decimal} (h : v.Fits) (s : Session) (engine : String)
    (formula : Option String) (status : Status) :
    ∃ e settings entries events, s.read engine formula (.finite v) status =
      ({ s with settings }, ⟨.ok (.result (.finite e) entries), status, events⟩) ∧
        SameNumber e v := by
  obtain ⟨e, settings, hpooled, he⟩ := exists_pooled h s.settings
  refine ⟨e, settings, { s with settings }.installedEntries,
    evaluated engine formula (.finite v), ?_, he⟩
  rw [read, finish, Settings.pooledNumeral_finite, hpooled]
  rfl

namespace Alike

theorem read (h : s.Alike L t) {v u : Decimal} (hvu : L.number v u) (hv : v.Fits) (hu : u.Fits)
    {status status' : Status} (hstatus : status.Alike L status') (engine : String)
    (formula formula' : Option String) :
    AlikeAnswers L (s.read engine formula (.finite v) status)
      (t.read engine formula' (.finite u) status') := by
  obtain ⟨e, settings, entries, events, heq, he⟩ := exists_read hv s engine formula status
  obtain ⟨e', settings', entries', events', heq', he'⟩ := exists_read hu t engine formula' status'
  rw [heq, heq']
  refine ⟨(h.administer_left settings _).administer_right settings' _, .ok ?_, hstatus⟩
  exact .result _ _ (he.trans ((L.sameNumber hvu).trans he'.symm))

theorem calculate (h : s.Alike L t) {c d : Calculator.Call} (hcd : c.Alike L d)
    (hc : ∀ o ∈ c.operations, L.Covers o) (hd : ∀ o ∈ d.operations, L.Covers o) :
    AlikeAnswers L (s.calculate c) (t.calculate d) := by
  have hvalue := hcd.value hc hd
  unfold Session.calculate Calculator.Call.run
  rcases hx : c.value with f | v <;> rcases hy : d.value with g | u <;> rw [hx, hy] at hvalue <;>
    rcases hvalue with hf | hvu
  · exact ⟨h, .error hf, .hidden⟩
  · obtain ⟨e, settings, hpooled, he⟩ := exists_pooled (Calculator.Call.fits_of_value hx) s.settings
    obtain ⟨e', settings', hpooled', he'⟩ := exists_pooled (Calculator.Call.fits_of_value hy)
      t.settings
    simp only [Except.bind, hpooled, hpooled']
    refine ⟨(h.administer_left settings _).administer_right settings' _, .ok ?_, .hidden⟩
    exact .result _ _ (he.trans ((L.sameNumber hvu).trans he'.symm))

/-! ## Bracketed chains -/

theorem beginBracket (h : s.Alike L t) {a b : Argument} (hab : L.Operand a b) :
    AlikeAnswers L (s.beginBracket a) (t.beginBracket b) := by
  have hbegin := Bracket.Chain.alike_begin hab s.settings.tracing t.settings.tracing
  unfold Session.beginBracket
  generalize Bracket.Chain.begin a s.settings.tracing = x at hbegin ⊢
  generalize Bracket.Chain.begin b t.settings.tracing = y at hbegin ⊢
  rcases hbegin with hf | hc
  · exact ⟨h, .error hf, .hidden⟩
  · rename_i c d
    have hafter : (s.withNewBracket c).Alike L (t.withNewBracket d) := by
      refine ⟨forall₂_concat h.brackets hc, ?_, ?_, h.chains, h.groups⟩
      · rw [withNewBracket, withNewBracket, h.scopes_eq, h.brackets.length_eq, hc.exposed.id_eq]
      · rw [withNewBracket, withNewBracket, h.scopes_eq]
    refine ⟨hafter, ?_, ?_⟩
    · show Fault.Rel _ _ (.ok (Outcome.scope (scopeName s.scopes.length))) _
      rw [h.scopes_eq]
      exact .ok .scope
    · show Status.Alike _ ((s.withNewBracket c).scopeStates [s.scopes.length]) _
      rw [h.scopes_eq]
      exact hafter.scopeStates _

theorem withBracket (h : s.Alike L t) {c c' d d' : Bracket.Chain} (hcd : c.Alike L d)
    (hcd' : c'.Alike L d') (k : ℕ) : (s.withBracket k c c').Alike L (t.withBracket k d d') := by
  refine ⟨forall₂_set h.brackets k hcd', ?_, h.latestScope_eq, h.chains, h.groups⟩
  rw [Session.withBracket, Session.withBracket, hcd.size_eq, hcd'.size_eq, h.scopes_eq,
    hcd'.exposed.id_eq]

theorem callScope (h : s.Alike L t) {c d : Bracket.Chain} (hcd : c.Alike L d)
    {call call' : Bracket.Call} (hcall : call.Alike L call') {i k id : ℕ}
    (hc : ∀ o ∈ c.callOperations id call, L.Covers o)
    (hd : ∀ o ∈ d.callOperations id call', L.Covers o) :
    AlikeAnswers L (s.callScope i k id c call) (t.callScope i k id d call') := by
  have hafter := hcd.call hcall hc hd
  unfold Session.callScope
  generalize c.call id call = x at hafter ⊢
  generalize d.call id call' = y at hafter ⊢
  rcases hafter with hf | hcd'
  · exact ⟨h, .error hf, h.scopeStates _⟩
  · rename_i c' d'
    have hst := h.withBracket hcd hcd' k
    dsimp only
    rw [hst.scopes_eq, hcd'.exposed.id_eq]
    -- The scope to go on with is found at the same place in both tables.
    split
    · exact ⟨hst, .error (L.fault_refl _), hst.scopeStates _⟩
    · exact ⟨⟨hst.brackets, rfl, rfl, hst.chains, hst.groups⟩, .ok .scope, hst.scopeStates _⟩

theorem askScope (h : s.Alike L t) {c d : Bracket.Chain} (hcd : c.Alike L d)
    (hcfits : c.Fits) (hdfits : d.Fits) {r q : ScopeRequest} (hrq : r.Alike L q) {i k id : ℕ}
    (hc : ∀ call, r = .call call → ∀ o ∈ c.callOperations id call, L.Covers o)
    (hd : ∀ call, q = .call call → ∀ o ∈ d.callOperations id call, L.Covers o) :
    AlikeAnswers L (s.askScope i k id c r) (t.askScope i k id d q) := by
  match hrq with
  | .call call => exact h.callScope hcd call (hc _ rfl) (hd _ rfl)
  | .result =>
    have hresult := hcd.result id
    unfold Session.askScope
    rcases hx : c.result id with f | v <;> rcases hy : d.result id with g | u <;>
      rw [hx, hy] at hresult <;> rcases hresult with hf | hvu
    · exact ⟨h, .error hf, h.scopeStates _⟩
    · exact h.read hvu (hcfits.result hx) (hdfits.result hy) (h.scopeStates _) _ _ _
  | .shown =>
    have hview := hcd.view? id
    unfold Session.askScope
    dsimp only
    generalize c.view? id = a at hview ⊢
    generalize d.view? id = b at hview ⊢
    rcases hview with hv | _
    · exact ⟨h, .ok (.text hv.shown), h.scopeStates _⟩
    · exact ⟨h, .error (L.fault_refl _), h.scopeStates _⟩
  | .refused => exact ⟨h, .error (L.fault_refl _), h.scopeStates _⟩

theorem unknown (h : s.Alike L t) : AlikeAnswers L (s, Reply.unknown) (t, Reply.unknown) :=
  ⟨h, .error (L.fault_refl _), .hidden⟩

theorem onScope (h : s.Alike L t) (hs : s.BracketsFit) (ht : t.BracketsFit)
    {on : Option String} {r q : ScopeRequest} (hrq : r.Alike L q)
    (hc : ∀ o ∈ s.operations (.scope on r), L.Covers o)
    (hd : ∀ o ∈ t.operations (.scope on q), L.Covers o) :
    AlikeAnswers L (s.onScope on r) (t.onScope on q) := by
  unfold Session.onScope
  have hplace := h.scopePlace?_eq on
  rw [← hplace]
  cases hon : s.scopePlace? on with
  | none => exact h.unknown
  | some i =>
    dsimp only
    rw [← h.scopes_eq]
    cases hi : s.scopes[i]? with
    | none => exact h.unknown
    | some p =>
      obtain ⟨k, id⟩ := p
      have hbracket := forall₂_getElem? h.brackets k
      dsimp only
      rcases hx : s.brackets[k]? with _ | c <;> rcases hy : t.brackets[k]? with _ | d <;>
        rw [hx, hy] at hbracket <;> rcases hbracket with hcd | _
      · exact h.unknown
      · have hleft : s.bracket? on = some (c, id) := by
          rw [bracket?, hon]
          simp [hi, hx]
        have hright : t.bracket? on = some (d, id) := by
          rw [bracket?, ← hplace, hon]
          simp [← h.scopes_eq, hi, hy]
        refine h.askScope hcd (hs.of_get hx) (ht.of_get hy) hrq ?_ ?_
        · rintro call rfl
          rwa [operations, hleft] at hc
        · rintro call rfl
          rwa [operations, hright] at hd

/-! ## Chains with callables -/

theorem addChain (h : s.Alike L t) {c d : Closure.Chain} (hcd : c.Alike L d)
    {status status' : Status} (hstatus : status.Alike L status') :
    AlikeAnswers L (s.addChain c status) (t.addChain d status') := by
  refine ⟨⟨h.brackets, h.scopes_eq, h.latestScope_eq, forall₂_concat h.chains hcd, h.groups⟩, ?_,
    hstatus⟩
  rw [Session.addChain, Session.addChain, h.chains.length_eq]
  exact .ok (.chain hcd)

theorem addChain? (h : s.Alike L t) {x y : Except Fault Closure.Chain}
    (hxy : Fault.Rel L.fault (Closure.Chain.Alike L) x y) {ns ms : List Closure.Note}
    (hnotes : List.Forall₂ (Closure.Note.Alike L) ns ms) :
    AlikeAnswers L (s.addChain? x ns) (t.addChain? y ms) := by
  rcases hxy with hf | hcd
  · exact ⟨h, .error hf, .notes hnotes⟩
  · exact h.addChain hcd (.notes hnotes)

theorem beginChain (h : s.Alike L t) {a b : Argument} (hab : L.Operand a b) (ha : a.Fits)
    (hb : b.Fits) : AlikeAnswers L (s.beginChain a) (t.beginChain b) := by
  have hbegin := Closure.Chain.alike_begin hab ha hb s.settings.tracing t.settings.tracing
  unfold Session.beginChain
  generalize Closure.Chain.begin a s.settings.tracing = x at hbegin ⊢
  generalize Closure.Chain.begin b t.settings.tracing = y at hbegin ⊢
  rcases hbegin with hf | hcd
  · exact ⟨h, .error hf, .hidden⟩
  · exact h.addChain hcd .hidden

theorem askChain (h : s.Alike L t) {c d : Closure.Chain} (hcd : c.Alike L d) {r q : ChainRequest}
    (hrq : r.Alike L q)
    (hjoin : ∀ op x scale, r = .join op x scale → ∀ o ∈ c.joinOperations op x scale, L.Covers o)
    (hjoin' : ∀ op x scale, q = .join op x scale → ∀ o ∈ d.joinOperations op x scale, L.Covers o)
    (hchange : ∀ op scale, r = .change op scale → ∀ o ∈ c.unaryOperations op scale, L.Covers o)
    (hchange' : ∀ op scale, q = .change op scale → ∀ o ∈ d.unaryOperations op scale, L.Covers o) :
    AlikeAnswers L (s.askChain c r) (t.askChain d q) := by
  match hrq with
  | .join operand =>
    obtain ⟨hout, hnotes⟩ := hcd.join operand (hjoin _ _ _ rfl) (hjoin' _ _ _ rfl)
    exact h.addChain? hout hnotes
  | .change => exact h.addChain? (hcd.unary (hchange _ _ rfl) (hchange' _ _ rfl)) .nil
  | .result =>
    obtain ⟨formula, formula', hvu, hv, hu⟩ := hcd
    exact h.read hvu hv hu .hidden _ _ _
  | .refused => exact ⟨h, .error (L.fault_refl _), .notes .nil⟩

theorem onChain (h : s.Alike L t) {on : Option String} {r q : ChainRequest} (hrq : r.Alike L q)
    (hc : ∀ o ∈ s.operations (.chain on r), L.Covers o)
    (hd : ∀ o ∈ t.operations (.chain on q), L.Covers o) :
    AlikeAnswers L (s.onChain on r) (t.onChain on q) := by
  have hchain := h.chain? on
  rcases hx : s.chain? on with _ | c <;> rcases hy : t.chain? on with _ | d <;>
    rw [hx, hy] at hchain <;> rcases hchain with hcd | _
  · rw [onChain_of_none hx, onChain_of_none hy]
    exact h.unknown
  · rw [onChain_of_some hx, onChain_of_some hy]
    refine h.askChain hcd hrq ?_ ?_ ?_ ?_
    · rintro op x scale rfl
      rwa [operations, hx] at hc
    · rintro op x scale rfl
      rwa [operations, hy] at hd
    · rintro op scale rfl
      rwa [operations, hx] at hc
    · rintro op scale rfl
      rwa [operations, hy] at hd

theorem sameChains_eq (h : s.Alike L t) (i j : ℕ) : s.sameChains i j = t.sameChains i j := by
  have hi := forall₂_getElem? h.chains i
  have hj := forall₂_getElem? h.chains j
  unfold sameChains
  generalize s.chains[i]? = a at hi ⊢
  generalize t.chains[i]? = b at hi ⊢
  generalize s.chains[j]? = a' at hj ⊢
  generalize t.chains[j]? = b' at hj ⊢
  rcases hi with hcd | _
  · rcases hj with hcd' | _
    · dsimp only
      rw [hcd.sameValue_eq hcd']
    · rfl
  · rfl

theorem compareChains (h : s.Alike L t) (a b : String) :
    AlikeAnswers L (s.compareChains a b) (t.compareChains a b) := by
  have hplace : ∀ name, s.chainPlace? (some name) = t.chainPlace? (some name) := by
    intro name
    rw [chainPlace?, chainPlace?, h.chains.length_eq]
  unfold Session.compareChains
  rw [hplace a, hplace b]
  split
  · rw [h.sameChains_eq]
    exact ⟨h, Fault.Rel.map (Fault.Rel.refl L.fault_refl (R := Eq) (fun _ ↦ rfl) _)
      fun x y hxy ↦ hxy ▸ .same, .hidden⟩
  · exact h.unknown

/-! ## Groups and callables that stand alone -/

theorem newGroup (h : s.Alike L t) (traced traced' : Bool) :
    AlikeAnswers L (s.newGroup traced) (t.newGroup traced') := by
  have hfresh := Closure.Group.alike_fresh (L := L) traced traced'
  refine ⟨⟨h.brackets, h.scopes_eq, h.latestScope_eq, h.chains, forall₂_concat h.groups hfresh⟩, ?_,
    .hidden⟩
  show Fault.Rel _ _ (.ok (Outcome.group (groupName s.groups.length) _)) _
  rw [h.groups.length_eq]
  exact .ok (.group hfresh)

theorem settleGroup (h : s.Alike L t) {g g' : Closure.Group} (hg : g.Alike L g')
    {r q : Closure.Run Unit} (hrq : Closure.Run.Alike L Eq r q) (i : ℕ) :
    AlikeAnswers L (s.settleGroup i g r) (t.settleGroup i g' q) := by
  have hafter : (r.groups.head?.getD g).Alike L (q.groups.head?.getD g') := by
    have hhead : Option.Rel (Closure.Group.Alike L) r.groups.head? q.groups.head? := by
      rw [List.head?_eq_getElem?, List.head?_eq_getElem?]
      exact forall₂_getElem? hrq.groups 0
    exact optionRel_getD hhead hg
  refine ⟨⟨h.brackets, h.scopes_eq, h.latestScope_eq, h.chains, forall₂_set h.groups i hafter⟩, ?_,
    .group hafter hrq.notes⟩
  exact Fault.Rel.map hrq.outcome fun _ _ _ ↦ .done

theorem askGroup (h : s.Alike L t) {g g' : Closure.Group} (hg : g.Alike L g') {r q : GroupRequest}
    (hrq : r.Alike L q) (i : ℕ)
    (hjoin : ∀ op x scale, r = .join op x scale → ∀ o ∈ g.joinOperations op x scale, L.Covers o)
    (hjoin' : ∀ op x scale, q = .join op x scale → ∀ o ∈ g'.joinOperations op x scale, L.Covers o)
    (hact : ∀ a, r = .act a → ∀ o ∈ a.operationsAt 0 [g], L.Covers o)
    (hact' : ∀ a, q = .act a → ∀ o ∈ a.operationsAt 0 [g'], L.Covers o) :
    AlikeAnswers L (s.askGroup i g r) (t.askGroup i g' q) := by
  match hrq with
  | .join operand =>
    exact h.settleGroup hg (hg.join operand (hjoin _ _ _ rfl) (hjoin' _ _ _ rfl)) i
  | .act act =>
    exact h.settleGroup hg (act.perform (.cons hg .nil) (hact _ rfl) (hact' _ rfl)) i
  | .shown => exact ⟨h, .ok (.text hg.shown), .hidden⟩
  | .refused => exact ⟨h, .error (L.fault_refl _), .group hg .nil⟩

theorem onGroup (h : s.Alike L t) {on : String} {r q : GroupRequest} (hrq : r.Alike L q)
    (hc : ∀ o ∈ s.operations (.group on r), L.Covers o)
    (hd : ∀ o ∈ t.operations (.group on q), L.Covers o) :
    AlikeAnswers L (s.onGroup on r) (t.onGroup on q) := by
  unfold Session.onGroup
  rw [← h.groups.length_eq]
  cases hon : placeOf? "g" s.groups.length on with
  | none => exact h.unknown
  | some i =>
    have hget := forall₂_getElem? h.groups i
    dsimp only
    rcases hx : s.groups[i]? with _ | g <;> rcases hy : t.groups[i]? with _ | g' <;>
      rw [hx, hy] at hget <;> rcases hget with hg | _
    · exact h.unknown
    · have hleft : s.group? on = some g := by rw [group?, hon, Option.bind_some, hx]
      have hright : t.group? on = some g' := by
        rw [group?, ← h.groups.length_eq, hon, Option.bind_some, hy]
      refine h.askGroup hg hrq i ?_ ?_ ?_ ?_
      · rintro op x scale rfl
        rwa [operations, hleft] at hc
      · rintro op x scale rfl
        rwa [operations, hright] at hd
      · rintro a rfl
        rwa [operations, hleft] at hc
      · rintro a rfl
        rwa [operations, hright] at hd

theorem evaluate (h : s.Alike L t) {x y : Closure.Script} (hxy : x.Alike L y)
    {traced traced' : Bool} (hc : ∀ o ∈ x.operations [.fresh traced], L.Covers o)
    (hd : ∀ o ∈ y.operations [.fresh traced'], L.Covers o) :
    AlikeAnswers L (s.evaluate x traced) (t.evaluate y traced') := by
  have hrun := hxy.evaluate List.Forall₂.nil hc hd
  exact ⟨h, Fault.Rel.map hrun.outcome fun _ _ hr ↦ .reading hr, .notes hrun.notes⟩

/-! ## Any command of a calculation -/

theorem step (h : s.Alike L t) (hs : s.BracketsFit) (ht : t.BracketsFit) {c d : Command}
    (hcd : c.Alike L d) (hcfits : c.Fits) (hdfits : d.Fits)
    (hc : ∀ o ∈ s.operations c, L.Covers o) (hd : ∀ o ∈ t.operations d, L.Covers o) :
    AlikeAnswers L (s.step c) (t.step d) := by
  match hcd with
  | .beginBracket operand => exact h.beginBracket operand
  | .scope request => exact h.onScope hs ht request hc hd
  | .beginChain operand => exact h.beginChain operand hcfits hdfits
  | .newChain formula formula' value =>
    exact h.addChain (.intro formula formula' value hcfits hdfits) .hidden
  | .chain request => exact h.onChain request hc hd
  | .compareChains => exact h.compareChains _ _
  | .newGroup traced traced' => exact h.newGroup traced traced'
  | .group request => exact h.onGroup request hc hd
  | .evaluate traced traced' script => exact h.evaluate script hc hd
  | .calculate call => exact h.calculate call hc hd

end Alike

end Session

end ChainedDecimal
