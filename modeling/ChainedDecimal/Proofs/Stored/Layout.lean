import ChainedDecimal.Proofs.Bracket.Views
import ChainedDecimal.Proofs.Stored.Links
import ChainedDecimal.Proofs.Stored.Results

/-!
# Chains and their nodes

A bracketed chain is a list of open scopes, innermost first, and in memory it is as many nodes that
are linked with each other. `StoredIn` says that a memory holds a chain: `nodes` tells for each
scope the node that stands for it, and the node is at the address of the scope.

What a call makes of a memory that holds a chain holds what it makes of the chain. There is one
lemma for each of the three memories that a call may lead to.
-/

namespace ChainedDecimal

namespace Bracket

namespace Chain

variable {address : Nat → Address} {formula : Option Nat}

/-! ## The nodes of a chain -/

section Nodes

variable (address : Nat → Address) (formula : Option Nat)

/-- The node of the exposed scope. -/
def exposedNode (c : Chain) : Node where
  value := c.exposed.value
  pending := .plain
  scale := none
  parent := (innermost c.enclosing).map address
  child := none
  formula := formula
  start := c.exposed.start
  closed := false

/-- The node of an enclosing scope, between the scope `inner` and the scopes around it. -/
def waitingNode (inner : Nat) (w : Waiting) (rest : List Waiting) : Node where
  value := w.scope.value
  pending := w.pending
  scale := w.scale
  parent := (innermost rest).map address
  child := some (address inner)
  formula := formula
  start := w.scope.start
  closed := false

/-- The nodes of enclosing scopes, of which the innermost one encloses the scope `inner`. -/
def waitingNodes (inner : Nat) : List Waiting → List (Nat × Node)
  | [] => []
  | w :: rest =>
    (w.scope.id, waitingNode address formula inner w rest) :: waitingNodes w.scope.id rest

/-- The node of a closed scope. -/
def closedNode (s : Scope) : Node where
  value := s.value
  pending := .plain
  scale := none
  parent := none
  child := none
  formula := formula
  start := s.start
  closed := true

/-- The nodes of all scopes, with their numbers. -/
def nodes (c : Chain) : List (Nat × Node) :=
  (c.exposed.id, c.exposedNode address formula) ::
    (waitingNodes address formula c.exposed.id c.enclosing ++
      c.closed.map fun s ↦ (s.id, closedNode formula s))

/-- A memory holds a chain, with its scopes at some addresses and its text in some formula. -/
structure StoredIn (c : Chain) (m : Memory) : Prop where
  /-- Each scope has its node. -/
  node_eq : ∀ x ∈ c.nodes address formula, m.nodes[address x.1]? = some x.2
  /-- No two scopes have the same node. -/
  nodup_addresses : (c.ids.map address).Nodup
  /-- The formula is that of the chain, if it is traced. -/
  formula_rel : Option.Rel (fun (t : Nat) (trace : Trace) ↦ m.formulas[t]? = some trace) formula
    c.trace

end Nodes

variable {c c' : Chain} {m m' : Memory} {id : Nat} {n : Node} {call : Call}

theorem map_fst_waitingNodes (inner : Nat) (ws : List Waiting) :
    (waitingNodes address formula inner ws).map Prod.fst = ws.map (·.scope.id) := by
  induction ws generalizing inner with
  | nil => rfl
  | cons w ws ih => rw [waitingNodes, List.map_cons, ih, List.map_cons]

theorem map_fst_nodes (address : Nat → Address) (formula : Option Nat) (c : Chain) :
    (c.nodes address formula).map Prod.fst = c.ids := by
  rw [nodes, List.map_cons, List.map_append, map_fst_waitingNodes, List.map_map, ids_eq_cons]
  rfl

/-- Of the nodes only the addresses of the scopes there are matter. -/
theorem waitingNodes_congr {address' : Nat → Address} {inner : Nat} {ws : List Waiting}
    (hinner : address inner = address' inner)
    (h : ∀ w ∈ ws, address w.scope.id = address' w.scope.id) :
    waitingNodes address formula inner ws = waitingNodes address' formula inner ws := by
  induction ws generalizing inner with
  | nil => rfl
  | cons w ws ih =>
    rw [List.forall_mem_cons] at h
    have hparent : (innermost ws).map address = (innermost ws).map address' := by
      rcases ws with _ | ⟨u, us⟩
      · rfl
      · exact congrArg some (h.2 u List.mem_cons_self)
    rw [waitingNodes, waitingNodes, ih h.1 h.2, waitingNode, waitingNode, hinner, hparent]

theorem nodes_congr {address' : Nat → Address} (h : ∀ id ∈ c.ids, address id = address' id) :
    c.nodes address formula = c.nodes address' formula := by
  rw [ids_eq_cons, List.forall_mem_cons] at h
  have hwaiting : ∀ w ∈ c.enclosing, address w.scope.id = address' w.scope.id :=
    fun w hw ↦ h.2 _ (List.mem_append_left _ (List.mem_map_of_mem hw))
  have hparent : (innermost c.enclosing).map address = (innermost c.enclosing).map address' := by
    rcases henc : c.enclosing with _ | ⟨u, us⟩
    · rfl
    · exact congrArg some (hwaiting u (by rw [henc]; exact List.mem_cons_self))
  rw [nodes, nodes, waitingNodes_congr h.1 hwaiting, exposedNode, exposedNode, hparent]

@[simp] theorem ids_opened (c : Chain) (op : Operator) (s : Option Int) (v : Option Decimal) :
    (c.opened op s v).ids = c.size :: c.ids := rfl

namespace StoredIn

/-- Only the addresses of the scopes there are matter. -/
theorem congr {address' : Nat → Address} (h : c.StoredIn address formula m)
    (heq : ∀ id ∈ c.ids, address id = address' id) : c.StoredIn address' formula m := by
  constructor
  · intro x hx
    rw [← nodes_congr heq] at hx
    have hid : x.1 ∈ c.ids := by
      rw [← map_fst_nodes address formula c]
      exact List.mem_map_of_mem hx
    rw [← heq _ hid]
    exact h.node_eq x hx
  · rw [← List.map_congr_left heq]
    exact h.nodup_addresses
  · exact h.formula_rel

theorem exposed_eq (h : c.StoredIn address formula m) :
    m.Exposed (address c.exposed.id) (c.exposedNode address formula) :=
  ⟨h.node_eq _ List.mem_cons_self, rfl, rfl⟩

theorem formula?_eq (h : c.StoredIn address formula m) : m.formula? formula = c.trace := by
  have hrel := h.formula_rel
  generalize c.trace = trace at hrel ⊢
  cases hrel with
  | none => rfl
  | some ht => exact ht

theorem lt_length (h : c.StoredIn address formula m) (hid : id ∈ c.ids) :
    address id < m.nodes.length := by
  rw [← map_fst_nodes address formula c] at hid
  obtain ⟨x, hx, rfl⟩ := List.mem_map.1 hid
  exact (List.getElem?_eq_some_iff.1 (h.node_eq x hx)).1

/-- Another scope is at another address. -/
theorem address_ne (h : c.StoredIn address formula m)
    (hid : id ∈ c.enclosing.map (·.scope.id) ++ c.closedIds) :
    address id ≠ address c.exposed.id := by
  have hnodup := h.nodup_addresses
  rw [ids_eq_cons, List.map_cons, List.nodup_cons] at hnodup
  intro heq
  exact hnodup.1 (heq ▸ List.mem_map_of_mem hid)

/-- The other scopes than the exposed one. -/
theorem fst_mem_of_mem_tail {x : Nat × Node}
    (hx : x ∈ waitingNodes address formula c.exposed.id c.enclosing ++
      c.closed.map fun s ↦ (s.id, closedNode formula s)) :
    x.1 ∈ c.enclosing.map (·.scope.id) ++ c.closedIds := by
  have hmem := List.mem_map_of_mem (f := Prod.fst) hx
  rw [List.map_append, map_fst_waitingNodes, List.map_map] at hmem
  exact hmem

/-! ## Writing -/

theorem record (h : Option.Rel (fun (t : Nat) (trace : Trace) ↦ m.formulas[t]? = some trace) formula
      c.trace) (change : Trace → Trace) :
    Option.Rel (fun (t : Nat) (trace : Trace) ↦
      (m.record formula change).formulas[t]? = some trace) formula (c.trace.map change) := by
  generalize c.trace = trace at h ⊢
  cases h with
  | none => exact .none
  | some ht => exact .some (by simp [Memory.record, ht])

theorem rewritten (h : c.StoredIn address formula m) (v : Decimal) (change : Trace → Trace) :
    ((c.withValue v).recording change).StoredIn address formula
      (m.rewritten (address c.exposed.id) v formula change) := by
  constructor
  · intro x hx
    rw [Memory.getElem?_rewritten h.exposed_eq.node_eq]
    rcases List.mem_cons.1 hx with rfl | hx
    · exact if_pos rfl
    · rw [if_neg (h.address_ne (fst_mem_of_mem_tail hx))]
      exact h.node_eq x (List.mem_cons_of_mem _ hx)
  · exact h.nodup_addresses
  · exact record h.formula_rel change

theorem opened (h : c.StoredIn address formula m) (hnew : address c.size = m.nodes.length)
    (op : Operator) (s : Option Int) (v : Option Decimal) :
    (c.opened op s v).StoredIn address formula
      (m.opened (address c.exposed.id) formula op s v) := by
  -- The addresses there are differ from that of the new node.
  have hne : ∀ id ∈ c.ids, address id ≠ m.nodes.length :=
    fun id hid ↦ Nat.ne_of_lt (h.lt_length hid)
  have hself : c.exposed.id ∈ c.ids := by
    rw [ids_eq_cons]
    exact List.mem_cons_self
  constructor
  · intro x hx
    rw [Memory.getElem?_opened h.exposed_eq.node_eq]
    rcases List.mem_cons.1 hx with rfl | hx
    · have hold : address c.size ≠ address c.exposed.id := by
        rw [hnew]
        exact (hne _ hself).symm
      refine (if_neg hold).trans ((if_pos hnew).trans ?_)
      rw [h.formula?_eq]
      rfl
    rcases List.mem_cons.1 hx with rfl | hx
    · refine (if_pos rfl).trans ?_
      rw [← hnew]
      rfl
    · have htail := fst_mem_of_mem_tail hx
      have hid : x.1 ∈ c.ids := by
        rw [ids_eq_cons]
        exact List.mem_cons_of_mem _ htail
      rw [if_neg (h.address_ne htail), if_neg (hne _ hid)]
      exact h.node_eq x (List.mem_cons_of_mem _ hx)
  · rw [ids_opened, List.map_cons, List.nodup_cons, hnew]
    refine ⟨fun hmem ↦ ?_, h.nodup_addresses⟩
    obtain ⟨id, hid, heq⟩ := List.mem_map.1 hmem
    exact hne id hid heq
  · exact record h.formula_rel _

theorem closedInto (h : c.StoredIn address formula m) {w : Waiting} {rest : List Waiting}
    (henc : c.enclosing = w :: rest) (v : Decimal) :
    (c.closedInto w rest v).StoredIn address formula
      (m.closed (address c.exposed.id) (address w.scope.id) formula w.pending w.scale v) := by
  have hnodes : c.nodes address formula = (c.exposed.id, c.exposedNode address formula) ::
      (w.scope.id, waitingNode address formula c.exposed.id w rest) ::
        (waitingNodes address formula w.scope.id rest ++
          c.closed.map fun s ↦ (s.id, closedNode formula s)) := by
    rw [nodes, henc, waitingNodes, List.cons_append]
  have hnode := h.node_eq
  rw [hnodes, List.forall_mem_cons, List.forall_mem_cons] at hnode
  obtain ⟨hself, hparent, hothers⟩ := hnode
  have hnodup := h.nodup_addresses
  rw [← map_fst_nodes address formula c, hnodes, List.map_map, List.map_cons, List.map_cons,
    List.nodup_cons, List.nodup_cons, List.mem_cons, not_or] at hnodup
  obtain ⟨⟨hne, hselfne⟩, hparentne, -⟩ := hnodup
  -- The nodes that are at neither end of the link are as they were.
  have hkept : ∀ x ∈ waitingNodes address formula w.scope.id rest ++
      c.closed.map (fun s ↦ (s.id, closedNode formula s)),
      (m.closed (address c.exposed.id) (address w.scope.id) formula w.pending w.scale v).nodes[
        address x.1]? = some x.2 := by
    intro x hx
    have hmem : address x.1 ∈ List.map (address ∘ Prod.fst) _ := List.mem_map_of_mem hx
    have hfirst : address x.1 ≠ address c.exposed.id := fun heq ↦ hselfne (by rwa [heq] at hmem)
    have hsecond : address x.1 ≠ address w.scope.id := fun heq ↦ hparentne (by rwa [heq] at hmem)
    rw [Memory.getElem?_closed hself hparent (Ne.symm hne), if_neg hfirst, if_neg hsecond]
    exact hothers x hx
  constructor
  · intro x hx
    rcases List.mem_cons.1 hx with rfl | hx
    · refine (Memory.getElem?_closed hself hparent (Ne.symm hne) ..).trans ?_
      exact (if_neg (Ne.symm hne)).trans (if_pos rfl)
    rcases List.mem_append.1 hx with hx | hx
    · exact hkept x (List.mem_append_left _ hx)
    rw [Chain.closedInto, List.map_append] at hx
    rcases List.mem_append.1 hx with hx | hx
    · exact hkept x (List.mem_append_right _ hx)
    · rw [List.mem_singleton.1 hx]
      exact (Memory.getElem?_closed hself hparent (Ne.symm hne) ..).trans (if_pos rfl)
  · exact ((ids_closedInto_perm henc v).map address).nodup_iff.2 h.nodup_addresses
  · exact record h.formula_rel _

end StoredIn

end Chain

end Bracket

end ChainedDecimal
