import ChainedDecimal.Proofs.Stored.Others
import ChainedDecimal.Proofs.Stored.Simulation
import ChainedDecimal.Proofs.Stored.Steps

/-!
# Sessions of chains and sessions of nodes

A session can be kept in two forms, with bracketed chains as lists of scopes or with all scopes as
nodes of one memory. Whatever commands they are given, they give the same answers, report the same
and show the same. So what is proved of sessions of the first form, where the list says which scope
is nested in which, holds of the links between nodes as well.

The place of a scope in the table of the first form is the address of its node in the second.
-/

namespace ChainedDecimal

open ChainedDecimal.Bracket

namespace Session

/-- The address of a scope of a chain. -/
def address (s : Session) (chain id : Nat) : Address := s.scopes.idxOf (chain, id)

/-- A session of nodes holds the chains of a session, each with its formula. -/
structure Stores (s : Session) (t : StoredSession) (formulas : Nat → Option Nat) : Prop where
  /-- All that has nothing to do with bracketed chains is the same. -/
  others_eq : t.others = s.withoutBrackets
  /-- The latest scope is the same. -/
  latestScope_eq : t.latestScope = s.latestScope
  /-- There are as many nodes as scopes. -/
  length_nodes : t.nodes.length = s.scopes.length
  /-- The memory holds every chain. -/
  storedIn : ∀ {k : Nat} {c : Chain}, s.brackets[k]? = some c →
    c.StoredIn (s.address k) (formulas k) t.memory
  /-- No two chains share a formula. -/
  formulas_apart : ∀ {k l f : Nat}, k < s.brackets.length → l < s.brackets.length →
    formulas k = some f → formulas l = some f → k = l

/-- A session of nodes that stands for a session. -/
structure Refines (s : Session) (t : StoredSession) : Prop where
  /-- The scopes of the session are numbered. -/
  numbered : s.Numbered
  /-- Its chains are held. -/
  stores : ∃ formulas, s.Stores t formulas

/-! ## What replies have in common -/

/-- A state of a scope that tells of other scopes by name only. -/
def ScopeState.named (st : ScopeState) : ScopeState :=
  { st with view := { st.view with parent := none, child := none } }

/-- A status that tells of other scopes by name only. -/
def Status.named : Status → Status
  | .scopes states => .scopes (states.map ScopeState.named)
  | status => status

/-- A reply that tells of other scopes by name only. In the two forms of a session scopes have
different numbers, but the same names. -/
def Reply.named (r : Reply) : Reply := { r with status := r.status.named }

variable {s : Session} {t : StoredSession} {formulas : Nat → Option Nat} {i j k id : Nat}
  {c c' : Chain}

/-! ## Addresses -/

theorem address_eq (h : s.scopes.Nodup) (hi : s.scopes[i]? = some (k, id)) :
    s.address k id = i := by
  obtain ⟨hlt, hget⟩ := List.getElem?_eq_some_iff.1 hi
  rw [address, ← hget]
  exact h.idxOf_getElem i hlt

theorem Numbered.mem_scopes (h : s.Numbered) (hc : s.brackets[k]? = some c) (hid : id ∈ c.ids) :
    (k, id) ∈ s.scopes :=
  (h.mem_scopes_iff k id).2 ⟨c, hc, ((h.wellNested_of_get hc).mem_ids_iff id).1 hid⟩

theorem Numbered.not_mem_scopes_size (h : s.Numbered) (hc : s.brackets[k]? = some c) :
    (k, c.size) ∉ s.scopes := by
  intro hmem
  obtain ⟨d, hd, hlt⟩ := (h.mem_scopes_iff _ _).1 hmem
  cases hc.symm.trans hd
  exact Nat.lt_irrefl _ hlt

/-- A scope in the table is a scope of its chain. -/
theorem Numbered.mem_ids (h : s.Numbered) (hi : s.scopes[i]? = some (k, id))
    (hc : s.brackets[k]? = some c) : id ∈ c.ids := by
  obtain ⟨d, hd, hlt⟩ := h.exists_chain hi
  cases hc.symm.trans hd
  exact ((h.wellNested_of_get hc).mem_ids_iff id).2 hlt

/-- The next scope of a chain will be at the first address that is free. -/
theorem Numbered.address_size (h : s.Numbered) (hc : s.brackets[k]? = some c) :
    s.address k c.size = s.scopes.length := List.idxOf_eq_length (h.not_mem_scopes_size hc)

/-- Scopes of two chains have two addresses. -/
theorem address_ne {l : Nat} (h : (l, id) ∈ s.scopes) (hkl : k ≠ l) (id' : Nat) :
    s.address l id ≠ s.address k id' := by
  intro heq
  exact hkl (Prod.mk.inj ((List.idxOf_inj h).1 heq)).1.symm

/-- A scope of a chain is named after its address. -/
theorem Numbered.scopeNameIn?_eq (h : s.Numbered) (hc : s.brackets[k]? = some c)
    (hid : id ∈ c.ids) : s.scopeNameIn? k id = some (scopeName (s.address k id)) := by
  have hplace : s.placeIn? k id = some (s.address k id) :=
    (placeIn?_eq_some_iff h.nodup_scopes).2 (List.getElem?_idxOf (h.mem_scopes hc hid))
  rw [placeIn?] at hplace
  rw [scopeNameIn?, hplace, Option.map_some]

/-! ## What is seen -/

theorem Stores.view?_eq (h : s.Stores t formulas) (hs : s.Numbered)
    (hi : s.scopes[i]? = some (k, id)) (hc : s.brackets[k]? = some c) {v : View}
    (hv : c.view? id = some v) : t.view? i = some (v.placed (s.address k)) := by
  have hview := (h.storedIn hc).view?_eq (hs.wellNested_of_get hc) hv
  rwa [address_eq hs.nodup_scopes hi] at hview

/-- A state of a scope is shown in the same way. -/
theorem Stores.scopeState?_eq (h : s.Stores t formulas) (hs : s.Numbered) (i : Nat) :
    (t.scopeState? i).map ScopeState.named = (s.scopeState? i).map ScopeState.named := by
  rcases hi : s.scopes[i]? with _ | ⟨k, id⟩
  · have hnode : t.memory.nodes[i]? = none := by
      rw [List.getElem?_eq_none_iff] at hi ⊢
      exact h.length_nodes ▸ hi
    simp [StoredSession.scopeState?, StoredSession.view?, Memory.view?, scopeState?, hi, hnode]
  · obtain ⟨c, hc, hlt⟩ := hs.exists_chain hi
    have hwell := hs.wellNested_of_get hc
    obtain ⟨v, hv⟩ := hwell.exists_view?_iff.2 hlt
    have hnames : ∀ x : Option Nat, (∀ q, x = some q → q ∈ c.ids) →
        (x.map (s.address k)).map scopeName = x.bind (s.scopeNameIn? k) := by
      rintro (_ | q) hq
      · rfl
      · exact (hs.scopeNameIn?_eq hc (hq q rfl)).symm
    have hparent := hnames v.parent fun q hq ↦ hwell.mem_ids_of_view? hv (Or.inl hq)
    have hchild := hnames v.child fun q hq ↦ hwell.mem_ids_of_view? hv (Or.inr hq)
    rw [StoredSession.scopeState?, h.view?_eq hs hi hc hv, scopeState?]
    simp [hi, hc, hv, ScopeState.named, View.placed, ← hparent, ← hchild]

theorem Stores.scopeStates_eq (h : s.Stores t formulas) (hs : s.Numbered) (is : List Nat) :
    (t.scopeStates is).named = (s.scopeStates is).named := by
  have hmap : ∀ f g : Nat → Option ScopeState,
      (∀ i, (f i).map ScopeState.named = (g i).map ScopeState.named) →
        (is.filterMap f).map ScopeState.named = (is.filterMap g).map ScopeState.named := by
    intro f g hfg
    rw [List.map_filterMap, List.map_filterMap]
    exact congrArg (fun f ↦ is.filterMap f) (funext hfg)
  exact congrArg Status.scopes (hmap _ _ (h.scopeState?_eq hs))

/-! ## Beginning a chain -/

theorem Stores.settings_eq (h : s.Stores t formulas) : t.others.settings = s.settings := by
  rw [h.others_eq]
  rfl

/-- A memory is held as it is, whatever else belongs to the session. -/
theorem storedIn_afterCall {address : Nat → Address} {formula : Option Nat} {m : Memory}
    (h : c.StoredIn address formula m) (t : StoredSession) (j : Address) :
    c.StoredIn address formula (t.afterCall m j).memory :=
  h.frame (fun _ _ ↦ rfl) fun _ _ ↦ rfl

theorem others_afterCall {m : Memory} (hm : m.settings = t.memory.settings) (j : Address) :
    (t.afterCall m j).others = t.others := by
  show { t.others with settings := m.settings } = t.others
  rw [hm]
  rfl

theorem Stores.begun (h : s.Stores t formulas) (hs : s.Numbered) {x : Argument}
    {v : Option Decimal} (hv : x.toDecimal? = .ok v)
    (hc : Chain.begin x s.settings.tracing = .ok c) :
    ∃ formulas', (s.withNewBracket c).Stores (t.afterCall (t.memory.started v) t.nodes.length)
      formulas' := by
  have htracing : t.memory.settings = s.settings := h.settings_eq
  rw [← htracing] at hc
  obtain ⟨formula, hformula, hstored⟩ := Chain.exists_storedIn_started hv hc
  have hnew : (s.withNewBracket c).Numbered := hs.withNewBracket hc
  refine ⟨fun k ↦ if k = s.brackets.length then formula else formulas k, ?_, ?_, ?_, ?_, ?_⟩
  · rw [others_afterCall (Memory.settings_started ..), h.others_eq]
    rfl
  · exact congrArg some h.length_nodes
  · show (t.memory.started v).nodes.length = (s.scopes ++ [_]).length
    rw [Memory.length_started, List.length_append, ← h.length_nodes]
    rfl
  · intro k d hd
    refine storedIn_afterCall ?_ t _
    have hd' : (s.brackets ++ [c])[k]? = some d := hd
    by_cases hk : k < s.brackets.length
    · rw [List.getElem?_append_left hk] at hd'
      simp only [if_neg (Nat.ne_of_lt hk)]
      refine ((h.storedIn hd').started v).congr fun id hid ↦ ?_
      exact (List.idxOf_append_of_mem (hs.mem_scopes hd' hid)).symm
    · -- The new chain has one scope, at the address of the new node.
      have hlt : k < (s.brackets ++ [c]).length := (List.getElem?_eq_some_iff.1 hd').1
      rw [List.length_append, List.length_singleton] at hlt
      obtain rfl : k = s.brackets.length := by omega
      rw [List.getElem?_concat_length, Option.some.injEq] at hd'
      subst hd'
      simp only [if_true]
      refine hstored.congr fun id hid ↦ ?_
      obtain ⟨hroot, hsize⟩ := Chain.exposed_id_begin hc
      obtain rfl : id = 0 := by
        have hidlt := ((Chain.wellNested_begin hc).mem_ids_iff id).1 hid
        omega
      have hplace : (s.withNewBracket c).scopes[s.scopes.length]? =
          some (s.brackets.length, 0) := by
        show (s.scopes ++ [(s.brackets.length, c.exposed.id)])[s.scopes.length]? = _
        rw [List.getElem?_concat_length, hroot]
      rw [address_eq hnew.nodup_scopes hplace]
      exact h.length_nodes
  · -- The formula of the new chain is a new one.
    have hfresh : ∀ {k f : Nat}, k < s.brackets.length → formulas k = some f →
        formula ≠ some f := by
      intro k f hk hkf hf
      have hlt := (h.storedIn (List.getElem?_eq_getElem hk)).formula_lt hkf
      exact Nat.ne_of_lt hlt (hformula f hf)
    intro k l f hk hl hkf hlf
    have hk' : k < s.brackets.length + 1 := by simpa [withNewBracket] using hk
    have hl' : l < s.brackets.length + 1 := by simpa [withNewBracket] using hl
    split at hkf <;> split at hlf
    · omega
    · exact absurd hkf (hfresh (by omega) hlf)
    · exact absurd hlf (hfresh (by omega) hkf)
    · exact h.formulas_apart (by omega) (by omega) hkf hlf

/-! ## Calling a scope -/

/-- The scopes there were keep their addresses, and the next one of the chain has the one it was to
have. -/
theorem Numbered.address_afterCall (hs : s.Numbered) (hc : s.brackets[k]? = some c) {call : Call}
    (hmove : Chain.Move c call c') (j : Nat) {l : Nat}
    (hid : (l, id) ∈ s.scopes ∨ (l, id) = (k, c.size)) :
    (s.afterCall k c c' j).address l id = s.address l id := by
  rcases hmove.size_cases (hs.wellNested_of_get hc) with ⟨hsize, -⟩ | ⟨hsize, hexposed⟩
  · have hscopes : (s.afterCall k c c' j).scopes = s.scopes := if_neg (by omega)
    rw [address, hscopes, address]
  · have hscopes : (s.afterCall k c c' j).scopes = s.scopes ++ [(k, c'.exposed.id)] :=
      if_pos (by omega)
    rw [address, hscopes, address]
    rcases hid with hmem | heq
    · exact List.idxOf_append_of_mem hmem
    · obtain ⟨rfl, rfl⟩ := Prod.mk.inj heq
      have hnew := hs.not_mem_scopes_size hc
      rw [List.idxOf_append_of_notMem hnew, List.idxOf_eq_length hnew, hexposed,
        List.idxOf_cons_self, Nat.add_zero]

theorem Stores.called (h : s.Stores t formulas) (hs : s.Numbered) (hc : s.brackets[k]? = some c)
    {call : Call} (hmove : Chain.Move c call c') {a : Address} {m : Memory}
    (hp : t.memory.Performs (s.address k c.exposed.id) call a m)
    (hm : Chain.Corresponds (s.address k) (formulas k) c t.memory c' (a, m))
    (hj : (s.withBracket k c c').scopes[j]? = some (k, c'.exposed.id)) :
    a = j ∧ (s.afterCall k c c' j).Stores (t.afterCall m j) formulas := by
  have hwell := hs.wellNested_of_get hc
  have hafter : (s.afterCall k c c' j).Numbered := hs.afterCall hc hmove hj
  -- The scopes of the chain afterwards are those before, and perhaps the next one.
  have hids : ∀ id ∈ c'.ids, (k, id) ∈ s.scopes ∨ (k, id) = (k, c.size) := by
    intro id hid
    have hlt := ((hwell.move hmove).mem_ids_iff id).1 hid
    rcases Nat.lt_or_ge id c.size with hold | hge
    · exact Or.inl ((hs.mem_scopes_iff k id).2 ⟨c, hc, hold⟩)
    · right
      have hsize := hmove.size_cases hwell
      exact congrArg (Prod.mk k) (by omega)
  have hexposed : c'.exposed.id ∈ c'.ids := by
    rw [Chain.ids_eq_cons]
    exact List.mem_cons_self
  have ha : a = j := by
    rw [show a = s.address k c'.exposed.id from hm.answer_eq,
      ← hs.address_afterCall hc hmove j (hids _ hexposed)]
    exact address_eq hafter.nodup_scopes hj
  refine ⟨ha, ?_, rfl, ?_, ?_, ?_⟩
  · rw [others_afterCall hp.settings_eq, h.others_eq]
    rfl
  · have hlength : m.nodes.length + c.size = t.nodes.length + c'.size := hm.length_eq
    show m.nodes.length = (s.withBracket k c c').scopes.length
    rw [withBracket]
    rcases hmove.size_cases hwell with ⟨hsize, -⟩ | ⟨hsize, -⟩
    · rw [if_neg (by omega), ← h.length_nodes]
      omega
    · rw [if_pos (by omega), List.length_append, List.length_singleton, ← h.length_nodes]
      omega
  · intro l d hd
    refine storedIn_afterCall ?_ t j
    by_cases hkl : k = l
    · subst hkl
      rw [brackets_afterCall hc, Option.some.injEq] at hd
      subst hd
      exact hm.storedIn.congr fun id hid ↦ (hs.address_afterCall hc hmove j (hids id hid)).symm
    · -- Another chain has other nodes and another formula.
      have hd' : s.brackets[l]? = some d := (List.getElem?_set_ne hkl).symm.trans hd
      have hstored := h.storedIn hd'
      have hmem : ∀ id ∈ d.ids, (l, id) ∈ s.scopes := fun id hid ↦ hs.mem_scopes hd' hid
      have hframe : d.StoredIn (s.address l) (formulas l) m := by
        refine hstored.frame (fun id hid ↦ hp.getElem?_eq ?_ ?_) fun f hf ↦ ?_
        · exact address_ne (hmem id hid) hkl _
        · rw [show a = s.address k c'.exposed.id from hm.answer_eq]
          exact address_ne (hmem id hid) hkl _
        · refine hp.getElem?_formulas (h.storedIn hc).exposed_eq.node_eq fun hsame ↦ hkl ?_
          exact h.formulas_apart (List.getElem?_eq_some_iff.1 hc).1
            (List.getElem?_eq_some_iff.1 hd').1 hsame hf
      exact hframe.congr fun id hid ↦ (hs.address_afterCall hc hmove j (Or.inl (hmem id hid))).symm
  · intro l l' f hl hl' hlf hlf'
    have hlength : (s.afterCall k c c' j).brackets.length = s.brackets.length := List.length_set
    rw [hlength] at hl hl'
    exact h.formulas_apart hl hl' hlf hlf'

/-! ## One command -/

/-- The two forms of a session after the same command: they still belong together, and they have
answered the same. -/
structure Agrees (p : Session × Reply) (q : StoredSession × Reply) : Prop where
  /-- The sessions belong together. -/
  refines : p.1.Refines q.1
  /-- The replies are the same. -/
  reply_eq : q.2.named = p.2.named

theorem Reply.named_congr {outcome : Except Fault Outcome} {status status' : Status}
    {events : List Event} (h : status.named = status'.named) :
    (Reply.mk outcome status events).named = (Reply.mk outcome status' events).named := by
  rw [named, named, h]

/-- What has nothing to do with bracketed chains may change in both forms alike. -/
theorem Refines.of_sameScopes (h : s.Refines t) {s' : Session} (hsame : SameScopes s s') :
    s'.Refines { t with others := s'.withoutBrackets } := by
  obtain ⟨hs, formulas, hstores⟩ := h
  have haddress : s'.address = s.address := by
    unfold address
    rw [hsame.scopes]
  refine ⟨hs.of_sameScopes hsame, formulas, rfl, ?_, ?_, ?_, ?_⟩
  · rw [hsame.latestScope]
    exact hstores.latestScope_eq
  · rw [hsame.scopes]
    exact hstores.length_nodes
  · intro k c hc
    rw [hsame.brackets] at hc
    rw [haddress]
    exact (hstores.storedIn hc).frame (fun _ _ ↦ rfl) fun _ _ ↦ rfl
  · rw [hsame.brackets]
    exact hstores.formulas_apart

theorem Refines.scopeStates_eq (h : s.Refines t) (is : List Nat) :
    (t.scopeStates is).named = (s.scopeStates is).named := by
  obtain ⟨hs, formulas, hstores⟩ := h
  exact hstores.scopeStates_eq hs is

/-- A request that changes nothing, and shows the scope that it was made to. -/
theorem Refines.agrees_same (h : s.Refines t) (outcome : Except Fault Outcome) (i : Nat)
    (events : List Event) :
    Agrees (s, ⟨outcome, s.scopeStates [i], events⟩) (t, ⟨outcome, t.scopeStates [i], events⟩) :=
  ⟨h, Reply.named_congr (h.scopeStates_eq [i])⟩

theorem Refines.beginBracket (h : s.Refines t) (x : Argument) :
    Agrees (s.beginBracket x) (t.beginBracket x) := by
  obtain ⟨hs, formulas, hstores⟩ := h
  rcases hx : x.toDecimal? with f | v
  · have hc : Chain.begin x s.settings.tracing = .error f := by
      rw [Chain.begin, hx]
      rfl
    rw [beginBracket_error hc, StoredSession.beginBracket_error hx]
    exact ⟨⟨hs, formulas, hstores⟩, rfl⟩
  · obtain ⟨c, hc⟩ : ∃ c, Chain.begin x s.settings.tracing = .ok c := by
      rw [Chain.begin, hx]
      exact ⟨_, rfl⟩
    have hnew : (s.withNewBracket c).Numbered := hs.withNewBracket hc
    obtain ⟨formulas', hstores'⟩ := hstores.begun hs hx hc
    rw [beginBracket_ok hc, StoredSession.beginBracket_ok hx]
    refine ⟨⟨hnew, formulas', hstores'⟩, ?_⟩
    rw [hstores.length_nodes] at hstores' ⊢
    exact Reply.named_congr (hstores'.scopeStates_eq hnew _)

theorem Refines.callScope (h : s.Refines t) (hi : s.scopes[i]? = some (k, id))
    (hc : s.brackets[k]? = some c) (call : Call) :
    Agrees (s.callScope i k id c call) (t.callScope i call) := by
  have hrefines := h
  obtain ⟨hs, formulas, hstores⟩ := h
  have hwell := hs.wellNested_of_get hc
  have hplace : s.address k id = i := address_eq hs.nodup_scopes hi
  have hnew : s.address k c.size = t.nodes.length :=
    (hs.address_size hc).trans hstores.length_nodes.symm
  obtain ⟨e, he, hrel⟩ := (hstores.storedIn hc).on_call hwell hnew (hs.mem_ids hi hc) call
  rw [hplace] at he
  generalize houtcome : c.call id call = outcome at hrel
  cases hrel with
  | error hf =>
    rw [callScope_error houtcome, StoredSession.callScope_error he]
    subst hf
    exact hrefines.agrees_same _ i []
  | @ok c' r hm =>
    obtain ⟨a, m⟩ := r
    obtain ⟨rfl, hmove⟩ := Chain.call_eq_ok_iff.1 houtcome
    have hp : t.memory.Performs i call a m := Action.on_call_eq_ok_iff.1 he
    obtain ⟨j, hj, heq⟩ := hs.callScope_ok (i := i) hc houtcome
    obtain ⟨rfl, hstores'⟩ := hstores.called hs hc hmove (hplace.symm ▸ hp) hm hj
    have hafter := hs.afterCall hc hmove hj
    rw [heq, StoredSession.callScope_ok hp]
    exact ⟨⟨hafter, formulas, hstores'⟩, Reply.named_congr (hstores'.scopeStates_eq hafter _)⟩

theorem Refines.readScope (h : s.Refines t) (hi : s.scopes[i]? = some (k, id))
    (hc : s.brackets[k]? = some c) :
    Agrees (s.askScope i k id c .result) (t.readScope i) := by
  have hrefines := h
  obtain ⟨hs, formulas, hstores⟩ := h
  have hstored := hstores.storedIn hc
  obtain ⟨n, hn, hformula, hresult⟩ :=
    hstored.result_eq (hs.wellNested_of_get hc) (hs.mem_ids hi hc)
  rw [address_eq hs.nodup_scopes hi] at hn
  rw [askScope]
  rcases houtcome : c.result id with f | v
  · rw [StoredSession.readScope_error hn (hresult.trans houtcome)]
    exact hrefines.agrees_same _ i []
  have hevents : t.reports n v = evaluated bracketEngine c.formula? (.finite v) := by
    rw [StoredSession.reports, hformula, hstored.formula?_eq, Chain.formula?]
    cases c.trace <;> rfl
  rw [StoredSession.readScope_ok hn (hresult.trans houtcome), hevents, hstores.settings_eq]
  simp only [read, finish, Settings.pooledNumeral_finite]
  rcases s.settings.pooled v with f | ⟨w, settings⟩
  · exact hrefines.agrees_same _ i _
  · have hafter : Refines { s with settings } { t with others := { t.others with settings } } := by
      rw [hstores.others_eq]
      exact hrefines.of_sameScopes ⟨rfl, rfl, rfl⟩
    refine ⟨hafter, ?_⟩
    have hentries : Session.installedEntries { t.others with settings } =
      Session.installedEntries { s with settings } := rfl
    show (Reply.mk (.ok (.result (.finite w) _)) _ _).named =
      (Reply.mk (.ok (.result (.finite w) _)) _ _).named
    exact Reply.named_congr (hafter.scopeStates_eq [i])

/-- Requests to a scope are answered alike. -/
theorem Refines.askScope (h : s.Refines t) (hi : s.scopes[i]? = some (k, id))
    (hc : s.brackets[k]? = some c) (request : ScopeRequest) :
    Agrees (s.askScope i k id c request) (t.askScope i request) := by
  cases request with
  | call call => exact h.callScope hi hc call
  | result => exact h.readScope hi hc
  | shown =>
    obtain ⟨hs, formulas, hstores⟩ := h
    have hwell := hs.wellNested_of_get hc
    obtain ⟨v, hv⟩ := hwell.exists_view?_iff.2 ((hwell.mem_ids_iff id).1 (hs.mem_ids hi hc))
    have hview := hstores.view?_eq hs hi hc hv
    rw [Session.askScope, StoredSession.askScope, hv, hview]
    exact Refines.agrees_same ⟨hs, formulas, hstores⟩ _ i []
  | refused why => exact h.agrees_same _ i []

theorem Stores.scopePlace?_eq (h : s.Stores t formulas) (on : Option String) :
    t.scopePlace? on = s.scopePlace? on := by
  rcases on with _ | name
  · exact h.latestScope_eq
  · show placeOf? "n" t.nodes.length name = placeOf? "n" s.scopes.length name
    rw [h.length_nodes]

/-- A scope that is meant is one that there is. -/
theorem Numbered.exists_of_scopePlace? (h : s.Numbered) {on : Option String}
    (hon : s.scopePlace? on = some i) :
    ∃ k id c, s.scopes[i]? = some (k, id) ∧ s.brackets[k]? = some c := by
  have hlt : i < s.scopes.length := by
    rcases on with _ | name
    · obtain ⟨k, c, hi, -⟩ := h.latest_exposed i hon
      exact (List.getElem?_eq_some_iff.1 hi).1
    · exact List.mem_range.1 (List.mem_of_find?_eq_some hon)
  obtain ⟨⟨k, id⟩, hi⟩ : ∃ p, s.scopes[i]? = some p := ⟨_, List.getElem?_eq_getElem hlt⟩
  obtain ⟨c, hc, -⟩ := h.exists_chain hi
  exact ⟨k, id, c, hi, hc⟩

theorem Refines.onScope (h : s.Refines t) (on : Option String) (request : ScopeRequest) :
    Agrees (s.onScope on request) (t.onScope on request) := by
  have hs := h.numbered
  obtain ⟨formulas, hstores⟩ := h.stores
  rw [StoredSession.onScope, hstores.scopePlace?_eq]
  rcases hon : s.scopePlace? on with _ | i
  · rw [Session.onScope, hon]
    exact ⟨h, rfl⟩
  · obtain ⟨k, id, c, hi, hc⟩ := hs.exists_of_scopePlace? hon
    rw [onScope_of_get hon hi hc]
    exact h.askScope hi hc request

/-- Every command is answered alike. -/
theorem Refines.step (h : s.Refines t) (command : Command) :
    Agrees (s.step command) (t.step command) := by
  by_cases hon : command.onBrackets = true
  · rcases onBrackets_iff.1 hon with ⟨x, rfl⟩ | ⟨on, request, rfl⟩
    · exact h.beginBracket x
    · exact h.onScope on request
  rw [Bool.not_eq_true] at hon
  obtain ⟨formulas, hstores⟩ := h.stores
  have hstep : t.step command =
      ({ t with others := (s.step command).1.withoutBrackets }, (s.step command).2) := by
    rw [t.step_of_not_onBrackets hon, hstores.others_eq, s.step_withoutBrackets hon]
    rfl
  rw [hstep]
  refine ⟨h.of_sameScopes (.step s ?_ ?_), rfl⟩
  · rintro x rfl
    cases hon
  · rintro on call rfl
    cases hon

/-! ## Any run -/

theorem refines_initial : Session.initial.Refines StoredSession.initial := by
  refine ⟨.initial, fun _ ↦ none, rfl, rfl, rfl, fun hc ↦ ?_, fun _ _ hf ↦ ?_⟩
  · cases hc
  · cases hf

theorem Refines.run (h : s.Refines t) (commands : List Command) :
    (s.run commands).1.Refines (t.run commands).1 ∧
      (t.run commands).2.map Reply.named = (s.run commands).2.map Reply.named := by
  induction commands generalizing s t with
  | nil => exact ⟨h, rfl⟩
  | cons c cs ih =>
    obtain ⟨hafter, hreply⟩ := h.step c
    obtain ⟨hrefines, hreplies⟩ := ih hafter
    rw [run_cons, StoredSession.run_cons, List.map_cons, List.map_cons, hreply, hreplies]
    exact ⟨hrefines, rfl⟩

/-- **Nodes and lists.** Whatever commands a session of nodes is given, it answers as the session of
chains does: the same outcomes and events, and the same states under the same names. And at any time
its memory holds the chains. -/
theorem refines_of_run (commands : List Command) :
    (Session.initial.run commands).1.Refines (StoredSession.initial.run commands).1 ∧
      (StoredSession.initial.run commands).2.map Reply.named =
        (Session.initial.run commands).2.map Reply.named :=
  refines_initial.run commands

end Session

end ChainedDecimal
