import ChainedDecimal.Proofs.Alike.Basic
import ChainedDecimal.Proofs.Stored.Layout

/-!
# Calls on a chain and on its nodes

Whatever is called on a scope, the chain and the node of the scope fail with the same fault, or both
succeed, and then the memory afterwards holds the chain afterwards. The same result is read from
both, and the same is seen of both. So the list is a faithful account of the nodes, although nothing
in it could be linked the wrong way.
-/

namespace ChainedDecimal

namespace Bracket

namespace Chain

variable {address : Nat → Address} {formula : Option Nat} {c c' : Chain} {m m' : Memory} {id : Nat}
  {n : Node} {call : Call}

/-! ## Calls -/

/-- A chain and a memory after the same call: the memory holds the chain, the answer is the exposed
scope, and there is a new node if there is a new scope. -/
structure Corresponds (address : Nat → Address) (formula : Option Nat) (c : Chain) (m : Memory)
    (c' : Chain) (r : Address × Memory) : Prop where
  /-- The answer is the exposed scope. -/
  answer_eq : r.1 = address c'.exposed.id
  /-- The memory holds the chain. -/
  storedIn : c'.StoredIn address formula r.2
  /-- A new scope is a new node. -/
  length_eq : r.2.nodes.length + c.size = m.nodes.length + c'.size

namespace StoredIn

theorem on_act (h : c.StoredIn address formula m) (hnew : address c.size = m.nodes.length)
    (call : Call) :
    ∃ e, (Action.call (address c.exposed.id) call).on m = m.atomically e ∧
      Fault.Rel Eq (Corresponds address formula c m) (c.act call) e := by
  have hself := h.exposed_eq
  have hrewritten : ∀ (w : Decimal) (change : Trace → Trace),
      Corresponds address formula c m ((c.withValue w).recording change)
        (address c.exposed.id, m.rewritten (address c.exposed.id) w formula change) :=
    fun w change ↦ ⟨rfl, h.rewritten w change, by rw [Memory.length_rewritten]; rfl⟩
  cases call with
  | binary op operand scale =>
    refine ⟨_, Action.on_binary hself op operand scale, ?_⟩
    refine .bind_self (fun _ ↦ rfl) fun x _ ↦ .bind_self (fun _ ↦ rfl) fun v _ ↦ ?_
    exact .bind_self (fun _ ↦ rfl) fun w _ ↦ .ok (hrewritten w _)
  | unary op scale =>
    refine ⟨_, Action.on_unary hself op scale, ?_⟩
    refine .bind_self (fun _ ↦ rfl) fun v _ ↦ ?_
    exact .bind_self (fun _ ↦ rfl) fun w _ ↦ .ok (hrewritten w _)
  | openGroup op operand scale =>
    refine ⟨_, Action.on_openGroup hself op operand scale, ?_⟩
    refine .bind_self (fun _ ↦ rfl) fun s _ ↦ ?_
    refine .bind_self (fun _ ↦ rfl) fun v _ ↦ .ok ⟨hnew.symm, h.opened hnew op s v, ?_⟩
    rw [Memory.length_opened, size_opened, Nat.add_right_comm, Nat.add_assoc]
  | close =>
    rcases henc : c.enclosing with _ | ⟨w, rest⟩
    · have hnone : (c.exposedNode address formula).parent = none := by
        rw [exposedNode, henc]
        rfl
      refine ⟨.error .nothingToClose,
        Action.on_close_of_no_parent hself.node_eq hself.closed_eq hnone, ?_⟩
      rw [act, close, henc]
      exact .error rfl
    · have hsome : (c.exposedNode address formula).parent = some (address w.scope.id) := by
        rw [exposedNode, henc]
        rfl
      have hw : m.nodes[address w.scope.id]? =
          some (waitingNode address formula c.exposed.id w rest) := by
        refine h.node_eq (w.scope.id, waitingNode address formula c.exposed.id w rest) ?_
        rw [nodes, henc]
        exact List.mem_cons_of_mem _ List.mem_cons_self
      refine ⟨_, Action.on_close hself hsome, ?_⟩
      rw [hw, act, close, henc]
      show Fault.Rel Eq _ (Except.map _ (foldGroup w.pending w.scale w.scope.value c.exposed.value))
        (foldGroup w.pending w.scale w.scope.value c.exposed.value >>= _)
      rcases foldGroup w.pending w.scale w.scope.value c.exposed.value with f | v
      · exact .error rfl
      · refine .ok ⟨rfl, h.closedInto henc v, ?_⟩
        rw [Memory.length_closed, size_closedInto henc]

/-- The node of an enclosing scope has a child, and a parent exactly if it is not the outermost. -/
theorem exists_waitingNode (h : c.StoredIn address formula m) {pre rest : List Waiting}
    {w : Waiting} (henc : c.enclosing = pre ++ w :: rest) :
    ∃ inner, m.nodes[address w.scope.id]? = some (waitingNode address formula inner w rest) := by
  have hmem : ∀ (inner : Nat) (pre : List Waiting), ∃ inner',
      (w.scope.id, waitingNode address formula inner' w rest) ∈
        waitingNodes address formula inner (pre ++ w :: rest) := by
    intro inner pre
    induction pre generalizing inner with
    | nil => exact ⟨inner, List.mem_cons_self⟩
    | cons u pre ih =>
      obtain ⟨inner', hmem⟩ := ih u.scope.id
      exact ⟨inner', List.mem_cons_of_mem _ hmem⟩
  obtain ⟨inner, hmem⟩ := hmem c.exposed.id pre
  refine ⟨inner, h.node_eq (w.scope.id, _) ?_⟩
  rw [nodes, henc]
  exact List.mem_cons_of_mem _ (List.mem_append_left _ hmem)

theorem closedNode_eq (h : c.StoredIn address formula m) {s : Scope} (hs : s ∈ c.closed) :
    m.nodes[address s.id]? = some (closedNode formula s) := by
  refine h.node_eq (s.id, closedNode formula s) ?_
  exact List.mem_cons_of_mem _ (List.mem_append_right _ (List.mem_map_of_mem hs))

end StoredIn

/-- The scopes that are not exposed. -/
theorem WellNested.place_cases (h : c.WellNested) (hid : id ∈ c.ids) :
    c.exposed.id = id ∨
      (c.place id = .covered ∧ ∃ pre w rest, c.enclosing = pre ++ w :: rest ∧ w.scope.id = id ∧
        (c.enclosing.getLast?.map (·.scope.id) = some id ↔ rest = [])) ∨
      c.place id = .closed ∧ ∃ s ∈ c.closed, s.id = id := by
  have hnodup := h.nodup_ids
  rw [ids_eq_cons] at hid hnodup
  rw [List.nodup_cons, List.nodup_append] at hnodup
  obtain ⟨hexposed, henclosing, -, hapart⟩ := hnodup
  rcases List.mem_cons.1 hid with rfl | hid
  · exact Or.inl rfl
  have hne : c.exposed.id ≠ id := fun heq ↦ hexposed (heq ▸ hid)
  right
  rcases List.mem_append.1 hid with hcovered | hclosed
  · left
    have hany : c.enclosing.any (·.scope.id == id) = true := by
      obtain ⟨w, hw, hwid⟩ := List.mem_map.1 hcovered
      exact List.any_eq_true.2 ⟨w, hw, by simpa using hwid⟩
    refine ⟨by rw [place, if_neg hne, if_pos hany], ?_⟩
    obtain ⟨w, hw, rfl⟩ := List.mem_map.1 hcovered
    obtain ⟨pre, rest, henc⟩ := List.append_of_mem hw
    refine ⟨pre, w, rest, henc, rfl, ?_⟩
    rw [henc, List.map_append, List.map_cons, List.nodup_append, List.nodup_cons] at henclosing
    obtain ⟨-, ⟨hinner, -⟩, -⟩ := henclosing
    rw [henc, List.getLast?_append_cons]
    constructor
    · intro hlast
      obtain ⟨z, hz, hzid⟩ := Option.map_eq_some_iff.1 hlast
      rcases rest with _ | ⟨u, us⟩
      · rfl
      -- Another scope is not the outermost one too, for it has another number.
      · rw [List.getLast?_cons_cons] at hz
        exact absurd (List.mem_map.2 ⟨z, List.mem_of_getLast? hz, hzid⟩) hinner
    · rintro rfl
      rfl
  · right
    have hnot : ¬c.enclosing.any (·.scope.id == id) = true := by
      intro hany
      obtain ⟨w, hw, hwid⟩ := List.any_eq_true.1 hany
      exact hapart _ (List.mem_map_of_mem hw) _ hclosed (by simpa using hwid)
    refine ⟨by rw [place, if_neg hne, if_neg hnot], ?_⟩
    obtain ⟨s, hs, hsid⟩ := List.mem_map.1 hclosed
    exact ⟨s, hs, hsid⟩

namespace StoredIn

/-- A call on a scope and the call on its node fail with the same fault, or both succeed. -/
theorem on_call (h : c.StoredIn address formula m) (hw : c.WellNested)
    (hnew : address c.size = m.nodes.length) (hid : id ∈ c.ids) (call : Call) :
    ∃ e, (Action.call (address id) call).on m = m.atomically e ∧
      Fault.Rel Eq (Corresponds address formula c m) (c.call id call) e := by
  rcases hw.place_cases hid with rfl | ⟨hplace, pre, w, rest, henc, rfl, hlast⟩ |
    ⟨hplace, s, hs, rfl⟩
  · rw [call_exposed]
    exact h.on_act hnew call
  · obtain ⟨inner, hnode⟩ := h.exists_waitingNode henc
    refine ⟨.error _, Action.on_call_of_child hnode rfl rfl call, ?_⟩
    have hparent : (waitingNode address formula inner w rest).parent = none ↔ rest = [] := by
      rcases rest with _ | ⟨u, us⟩ <;> simp [waitingNode, innermost]
    rw [Chain.call, hplace]
    refine .error ?_
    rw [coveredFault]
    exact if_congr (and_congr_right fun _ ↦ hlast.trans hparent.symm) rfl rfl
  · refine ⟨.error _, Action.on_call_of_closed (h.closedNode_eq hs) rfl call, ?_⟩
    rw [Chain.call, hplace]
    exact .error rfl

/-! ## Looking at a chain -/

/-- Reading the result of a chain from a scope is reading it from its node. -/
theorem result_eq (h : c.StoredIn address formula m) (hw : c.WellNested) (hid : id ∈ c.ids) :
    ∃ n, m.nodes[address id]? = some n ∧ n.formula = formula ∧ n.result = c.result id := by
  rcases hw.place_cases hid with rfl | ⟨hplace, pre, w, rest, henc, rfl, -⟩ | ⟨hplace, s, hs, rfl⟩
  · refine ⟨_, h.exposed_eq.node_eq, rfl, ?_⟩
    rw [Chain.result, place_exposed]
    rcases henc : c.enclosing with _ | ⟨w, rest⟩
    · simp [Node.result, exposedNode, henc, innermost]
    · simp [Node.result, exposedNode, henc, innermost]
  · obtain ⟨inner, hnode⟩ := h.exists_waitingNode henc
    refine ⟨_, hnode, rfl, ?_⟩
    rw [Chain.result, hplace]
    rfl
  · refine ⟨_, h.closedNode_eq hs, rfl, ?_⟩
    rw [Chain.result, hplace]
    rfl

/-- The way out from the innermost of some enclosing scopes passes all of them. -/
theorem outwards {inner : Nat} {ws : List Waiting}
    (h : ∀ x ∈ waitingNodes address formula inner ws, m.nodes[address x.1]? = some x.2) :
    m.Outwards ((innermost ws).map address) ws.length := by
  induction ws generalizing inner with
  | nil => exact .outside
  | cons w ws ih =>
    rw [waitingNodes, List.forall_mem_cons] at h
    exact .parent h.1 (ih h.2)

end StoredIn

end Chain

/-- A view with addresses for numbers. -/
def View.placed (address : Nat → Address) (v : View) : View :=
  { v with parent := v.parent.map address, child := v.child.map address }

variable {address : Nat → Address} {formula : Option Nat} {m m' : Memory} {c : Chain} {id : Nat}

namespace Chain.StoredIn

theorem view?_of_mem_waitingViews {inner : Nat} {ws : List Waiting} {v : View}
    (h : ∀ x ∈ waitingNodes address formula inner ws, m.nodes[address x.1]? = some x.2)
    (hv : (id, v) ∈ waitingViews inner ws) : m.view? (address id) = some (v.placed address) := by
  induction ws generalizing inner with
  | nil => cases hv
  | cons w ws ih =>
    rw [waitingNodes, List.forall_mem_cons] at h
    obtain ⟨hnode, hrest⟩ := h
    rcases List.mem_cons.1 hv with heq | hv
    · obtain ⟨rfl, rfl⟩ := Prod.mk.inj heq
      exact (outwards hrest).view?_eq hnode
    · exact ih hrest hv

/-- What is seen of a scope is what is seen of its node. -/
theorem view?_eq (h : c.StoredIn address formula m) (hw : c.WellNested) {v : View}
    (hv : c.view? id = some v) : m.view? (address id) = some (v.placed address) := by
  rw [hw.view?_eq_some_iff, views, List.cons_append] at hv
  have hwaiting : ∀ x ∈ waitingNodes address formula c.exposed.id c.enclosing,
      m.nodes[address x.1]? = some x.2 :=
    fun x hx ↦ h.node_eq x (List.mem_cons_of_mem _ (List.mem_append_left _ hx))
  rcases List.mem_cons.1 hv with heq | hv
  · obtain ⟨rfl, rfl⟩ := Prod.mk.inj heq
    exact (outwards hwaiting).view?_eq h.exposed_eq.node_eq
  rcases List.mem_append.1 hv with hv | hv
  · exact view?_of_mem_waitingViews hwaiting hv
  · obtain ⟨s, hs, heq⟩ := List.mem_map.1 hv
    obtain ⟨rfl, rfl⟩ := Prod.mk.inj heq
    exact Memory.Outwards.outside.view?_eq (h.closedNode_eq hs)

end Chain.StoredIn

/-! ## Writing elsewhere -/

namespace Memory

variable {m m' : Memory} {self a b : Address} {n : Node} {call : Call}

theorem getElem?_record_of_ne {formula : Option Nat} {t : Nat} (h : formula ≠ some t)
    (change : Trace → Trace) : (m.record formula change).formulas[t]? = m.formulas[t]? := by
  rcases formula with _ | u
  · rfl
  · exact List.getElem?_modify_ne _ _ fun heq ↦ h (congrArg some heq)

/-- A call writes to its node and to the one that it answers with. -/
theorem Performs.getElem?_eq (h : m.Performs self call a m') (hself : b ≠ self) (ha : b ≠ a) :
    m'.nodes[b]? = m.nodes[b]? := by
  cases h with
  | binary exposed => rw [getElem?_rewritten exposed.node_eq, if_neg hself]
  | unary exposed => rw [getElem?_rewritten exposed.node_eq, if_neg hself]
  | openGroup exposed => rw [getElem?_opened exposed.node_eq, if_neg hself, if_neg ha]
  | close =>
    exact (List.getElem?_modify_ne _ _ (Ne.symm hself)).trans
      (List.getElem?_modify_ne _ _ (Ne.symm ha))

/-- A call writes to the formula of its node. -/
theorem Performs.getElem?_formulas (h : m.Performs self call a m') (hn : m.nodes[self]? = some n)
    {t : Nat} (ht : n.formula ≠ some t) : m'.formulas[t]? = m.formulas[t]? := by
  obtain ⟨n', change, hexposed, heq⟩ := h.exists_record
  cases hexposed.node_eq.symm.trans hn
  rw [heq]
  exact getElem?_record_of_ne ht change

end Memory

namespace Chain.StoredIn

/-- A chain stays where it is as long as nobody writes to its nodes and its formula. -/
theorem frame (h : c.StoredIn address formula m)
    (hnode : ∀ id ∈ c.ids, m'.nodes[address id]? = m.nodes[address id]?)
    (hformula : ∀ t : Nat, formula = some t → m'.formulas[t]? = m.formulas[t]?) :
    c.StoredIn address formula m' := by
  constructor
  · intro x hx
    have hid : x.1 ∈ c.ids := by
      rw [← map_fst_nodes address formula c]
      exact List.mem_map_of_mem hx
    rw [hnode _ hid]
    exact h.node_eq x hx
  · exact h.nodup_addresses
  · have hrel := h.formula_rel
    generalize c.trace = trace at hrel ⊢
    cases hrel with
    | none => exact .none
    | some ht => exact .some (by rw [hformula _ rfl, ht])

theorem formula_lt (h : c.StoredIn address formula m) {t : Nat} (ht : formula = some t) :
    t < m.formulas.length := by
  have hrel := h.formula_rel
  rw [ht] at hrel
  generalize c.trace = trace at hrel
  cases hrel with
  | some hget => exact (List.getElem?_eq_some_iff.1 hget).1

/-- Beginning a chain writes to no other. -/
theorem started (h : c.StoredIn address formula m) (value : Option Decimal) :
    c.StoredIn address formula (m.started value) := by
  refine h.frame (fun id hid ↦ ?_) fun t ht ↦ ?_
  · obtain ⟨_, hnode⟩ := m.exists_getElem?_started value
    rw [hnode, if_neg (Nat.ne_of_lt (h.lt_length hid))]
  · have hlt := h.formula_lt ht
    rw [Memory.started]
    split
    · exact List.getElem?_append_left hlt
    · rfl

end Chain.StoredIn

/-- A chain that was just begun is held by the memory. -/
theorem Chain.exists_storedIn_started {x : Argument} {v : Option Decimal}
    (hv : x.toDecimal? = .ok v) (hc : Chain.begin x m.settings.tracing = .ok c) :
    ∃ formula : Option Nat, (∀ t, formula = some t → t = m.formulas.length) ∧
      c.StoredIn (fun _ ↦ m.nodes.length) formula (m.started v) := by
  obtain ⟨v', hv', rfl⟩ := Fault.map_eq_ok.1 hc
  cases hv.symm.trans hv'
  unfold Memory.started
  by_cases htracing : m.settings.tracing = true
  · simp only [htracing, if_true]
    refine ⟨some m.formulas.length, fun t ht ↦ (Option.some.inj ht).symm, ?_, ?_, ?_⟩
    · intro y hy
      rw [List.mem_singleton.1 hy]
      exact List.getElem?_concat_length
    · exact List.nodup_singleton _
    · exact .some List.getElem?_concat_length
  · simp only [htracing, Bool.false_eq_true, if_false]
    refine ⟨none, fun t ht ↦ (Option.some_ne_none t ht.symm).elim, ?_, ?_, ?_⟩
    · intro y hy
      rw [List.mem_singleton.1 hy]
      exact List.getElem?_concat_length
    · exact List.nodup_singleton _
    · exact .none

end Bracket

end ChainedDecimal
