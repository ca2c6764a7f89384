import ChainedDecimal.Proofs.Stored.Actions

/-!
# What calls do to a memory

Each of the four calls, on a node that is open and has no child, comes to some steps that may fail
and then to one memory, `rewritten`, `opened` or `closed`. On any other node a call fails before it
has looked at an argument. So a call that fails has written nothing, and `Performs` lists what a
call that succeeds does.
-/

namespace ChainedDecimal

namespace Bracket

/-- Folding a group is a check of the scale, a check of the value, and an operation. -/
theorem foldGroup_eq (op : Operator) (scale : Option Int) (outer inner : Option Decimal) :
    foldGroup op scale outer inner =
      (if op.needsScale && scale.isNone then .error (.missingScale op) else .ok ()) >>=
        fun _ : Unit ↦ Fault.require .closedWithoutValue inner >>= folded op scale outer := by
  unfold foldGroup
  split
  · rfl
  · cases inner with
    | none => rfl
    | some v => rcases op with _ | op | op <;> rfl

namespace Memory

/-! ## What a call makes of a memory -/

/-- The node at an address is open and has no child. -/
structure Exposed (m : Memory) (a : Address) (n : Node) : Prop where
  /-- The node is there. -/
  node_eq : m.nodes[a]? = some n
  /-- It was not closed. -/
  closed_eq : n.closed = false
  /-- Nothing is open in it. -/
  child_eq : n.child = none

/-- The memory in which the value of a scope was replaced. -/
def rewritten (m : Memory) (self : Address) (v : Decimal) (formula : Option Nat)
    (change : Trace → Trace) : Memory :=
  { m.record formula change with
    nodes := m.nodes.modify self fun n ↦ { n with value := some v } }

/-- The memory in which a group was opened in a scope. -/
def opened (m : Memory) (self : Address) (formula : Option Nat) (op : Operator)
    (scale : Option Int) (value : Option Decimal) : Memory :=
  { m.record formula (Chain.openedTrace op value) with
    nodes :=
      (m.nodes ++ [Node.fresh value (some self) formula
        (Chain.openedMark op (m.formula? formula))]).modify self fun n ↦
          { n with child := some m.nodes.length, pending := op, scale := scale } }

/-- The memory in which a scope was closed and its parent given a value. -/
def closed (m : Memory) (self parent : Address) (formula : Option Nat) (op : Operator)
    (scale : Option Int) (v : Decimal) : Memory :=
  { m.record formula fun t ↦ t.closeGroup op (.ofInt? scale) with
    nodes :=
      (m.nodes.modify parent fun n ↦
        { n with value := some v, child := none, pending := .plain, scale := none }).modify self
          fun n ↦ { n with parent := none, closed := true } }

/-- The memory in which a chain was begun. It has a formula if calculations are traced. -/
def started (m : Memory) (value : Option Decimal) : Memory :=
  if m.settings.tracing then
    { m with
      nodes := m.nodes ++ [Node.fresh value none (some m.formulas.length) 0]
      formulas := m.formulas ++ [Trace.ofValue? value] }
  else { m with nodes := m.nodes ++ [Node.fresh value none none 0] }

/-- What a call on a node that succeeds makes of a memory, and the node that it answers with. -/
inductive Performs (m : Memory) (self : Address) : Call → Address → Memory → Prop where
  /-- The operand is usable, there is a value, and the operator can be carried out. -/
  | binary {n : Node} {op : BinaryOp} {operand scale : Argument} {x v w : Decimal}
      (exposed : m.Exposed self n) (operand_ok : operand.toDecimal = .ok x)
      (value_eq : n.value = some v) (apply_ok : op.apply v x scale = .ok w) :
      Performs m self (.binary op operand scale) self
        (m.rewritten self w n.formula fun t ↦ t.binary op (.decimal x) scale)
  /-- There is a value, and the operator can be carried out. -/
  | unary {n : Node} {op : UnaryOp} {scale : Argument} {v w : Decimal}
      (exposed : m.Exposed self n) (value_eq : n.value = some v)
      (apply_ok : op.apply v scale = .ok w) :
      Performs m self (.unary op scale) self
        (m.rewritten self w n.formula fun t ↦ t.unary op scale n.start)
  /-- The scale and the first value are usable, where both may be absent. -/
  | openGroup {n : Node} {op : Operator} {operand scale : Argument} {s : Option Int}
      {v : Option Decimal} (exposed : m.Exposed self n)
      (scale_ok : Chain.openingScale op scale = .ok s) (operand_ok : operand.toDecimal? = .ok v) :
      Performs m self (.openGroup op operand scale) m.nodes.length (m.opened self n.formula op s v)
  /-- There is a parent, and the group can be folded into it. -/
  | close {n w : Node} {parent : Address} {v : Decimal} (exposed : m.Exposed self n)
      (parent_eq : n.parent = some parent) (node_eq : m.nodes[parent]? = some w)
      (fold_ok : foldGroup w.pending w.scale w.value n.value = .ok v) :
      Performs m self .close parent (m.closed self parent n.formula w.pending w.scale v)

variable {m m' : Memory} {self a : Address} {call : Call}

@[simp] theorem settings_started (m : Memory) (value : Option Decimal) :
    (m.started value).settings = m.settings := by
  rw [started]
  split <;> rfl

@[simp] theorem events_started (m : Memory) (value : Option Decimal) :
    (m.started value).events = m.events := by
  rw [started]
  split <;> rfl

/-- Besides nodes a call writes to the formula of its node, and to nothing else. -/
theorem Performs.exists_record (h : m.Performs self call a m') :
    ∃ n change, m.Exposed self n ∧ m' = { m.record n.formula change with nodes := m'.nodes } := by
  cases h with
  | binary exposed => exact ⟨_, _, exposed, rfl⟩
  | unary exposed => exact ⟨_, _, exposed, rfl⟩
  | openGroup exposed => exact ⟨_, _, exposed, rfl⟩
  | close exposed => exact ⟨_, _, exposed, rfl⟩

theorem Performs.settings_eq (h : m.Performs self call a m') : m'.settings = m.settings := by
  obtain ⟨n, change, -, heq⟩ := h.exists_record
  rw [heq]
  exact settings_record ..

theorem Performs.events_eq (h : m.Performs self call a m') : m'.events = m.events := by
  obtain ⟨n, change, -, heq⟩ := h.exists_record
  rw [heq]
  exact events_record ..

end Memory

namespace Action

variable {α : Type} {m m' : Memory} {self parent : Address} {n : Node}

/-- The checks that come first are passed by a node that is open and has no child. -/
theorem on_checks (h : m.Exposed self n) (x : Action α) :
    (do checkOpen self; checkNoOpenChild self; x).on m = x.on m := by
  rw [on_bind_ok (on_checkOpen_of_open h.node_eq h.closed_eq),
    on_bind_ok (on_checkNoOpenChild_of_none h.node_eq h.child_eq)]

/-! ## Calls on an exposed node -/

theorem on_binary (h : m.Exposed self n) (op : BinaryOp) (operand scale : Argument) :
    (binary self op operand scale).on m = m.atomically do
      let x ← operand.toDecimal
      let v ← Fault.require (.scopeWithoutValue (.binary op)) n.value
      let w ← op.apply v x scale
      return (self, m.rewritten self w n.formula fun t ↦ t.binary op (.decimal x) scale) := by
  rw [binary, on_checks h, on_bind_ok (on_node h.node_eq)]
  refine on_bind_eq_atomically rfl fun x hx ↦ ?_
  refine on_bind_eq_atomically (on_requireValue h.node_eq _) fun v hv ↦ ?_
  refine on_bind_eq_atomically rfl fun w hw ↦ ?_
  cases n.formula <;> rfl

theorem on_unary (h : m.Exposed self n) (op : UnaryOp) (scale : Argument) :
    (unary self op scale).on m = m.atomically do
      let v ← Fault.require (.scopeWithoutValue (.unary op)) n.value
      let w ← op.apply v scale
      return (self, m.rewritten self w n.formula fun t ↦ t.unary op scale n.start) := by
  rw [unary, on_checks h, on_bind_ok (on_node h.node_eq)]
  refine on_bind_eq_atomically (on_requireValue h.node_eq _) fun v hv ↦ ?_
  refine on_bind_eq_atomically rfl fun w hw ↦ ?_
  cases n.formula <;> rfl

theorem on_openGroup (h : m.Exposed self n) (op : Operator) (operand scale : Argument) :
    (openGroup self op operand scale).on m = m.atomically do
      let s ← Chain.openingScale op scale
      let v ← operand.toDecimal?
      return (m.nodes.length, m.opened self n.formula op s v) := by
  rw [openGroup, on_checks h, on_bind_ok (on_node h.node_eq)]
  refine on_bind_eq_atomically rfl fun s hs ↦ ?_
  refine on_bind_eq_atomically rfl fun v hv ↦ ?_
  rw [on_bind_ok (on_record ..), on_bind_ok (on_markOf ..), on_bind_ok (on_record ..),
    on_bind_ok (on_allocate ..), on_bind_ok (on_update ..), on_bind_ok (on_update ..),
    on_bind_ok (on_update ..)]
  -- What is left is that the writes, taken together, make the memory that was said.
  have htext : (fun t : Trace ↦ (v.map fun v ↦ t.operand (.decimal v)).getD t) ∘
      (fun t ↦ t.openGroup op) = Chain.openedTrace op v := by
    funext t
    cases v <;> rfl
  have hmark : (((m.formula? n.formula).map fun t ↦ t.openGroup op).map Trace.mark).getD 0 =
      Chain.openedMark op (m.formula? n.formula) := by
    cases m.formula? n.formula <;> rfl
  simp only [Memory.record_record, htext, Memory.formula?_record, hmark, Memory.nodes_record,
    Memory.update_update]
  rfl

theorem on_close (h : m.Exposed self n) (hparent : n.parent = some parent) :
    (close self).on m = m.atomically do
      let w ← Fault.require .unknownRequest m.nodes[parent]?
      let v ← foldGroup w.pending w.scale w.value n.value
      return (parent, m.closed self parent n.formula w.pending w.scale v) := by
  rw [close, on_bind_ok (on_checkOpen_of_open h.node_eq h.closed_eq),
    on_bind_ok (on_requireParent_of_some h.node_eq hparent _),
    on_bind_ok (on_checkNoOpenChild_of_none h.node_eq h.child_eq), on_bind_ok (on_node h.node_eq)]
  refine on_bind_eq_atomically (on_node? parent m) fun w hw ↦ ?_
  rw [Fault.require_eq_ok] at hw
  simp only [foldGroup_eq, bind_assoc]
  refine on_bind_eq_atomically (on_checkScale hw) fun _ _ ↦ ?_
  refine on_bind_eq_atomically (on_requireValue h.node_eq _) fun v hv ↦ ?_
  refine on_bind_eq_atomically rfl fun r hr ↦ ?_
  rw [on_bind_ok (on_update ..), on_bind_ok (on_record ..), on_bind_ok (on_update ..),
    on_bind_ok (on_update ..), on_bind_ok (on_update ..), on_bind_ok (on_update ..),
    on_bind_ok (on_update ..)]
  -- What is written to the formula does not depend on what is written to the nodes.
  simp only [Memory.update_record, Memory.update_update]
  cases n.formula <;> rfl

/-! ## Calls on other nodes -/

theorem on_call_of_none (h : m.nodes[self]? = none) (c : Call) :
    (call self c).on m = (.error .unknownRequest, m) := by
  have hnode : (node self).on m = (.error .unknownRequest, m) := by
    rw [on_node?, h]
    rfl
  have hcheck : (checkOpen self).on m = (.error .unknownRequest, m) := on_bind_error hnode _
  cases c <;> exact on_bind_error hcheck _

/-- A closed node refuses every call. -/
theorem on_call_of_closed (h : m.nodes[self]? = some n) (hclosed : n.closed = true) (c : Call) :
    (call self c).on m = (.error .scopeClosed, m) := by
  have hcheck : (checkOpen self).on m = (.error .scopeClosed, m) := by
    rw [on_checkOpen h, hclosed]
    rfl
  cases c <;> exact on_bind_error hcheck _

/-- A node without a parent cannot be closed, whether or not it has a child. -/
theorem on_close_of_no_parent (h : m.nodes[self]? = some n) (hopen : n.closed = false)
    (hparent : n.parent = none) : (close self).on m = (.error .nothingToClose, m) := by
  have hmissing : (requireParent self .nothingToClose).on m = (.error .nothingToClose, m) := by
    rw [on_requireParent h, hparent]
    rfl
  rw [close, on_bind_ok (on_checkOpen_of_open h hopen)]
  exact on_bind_error hmissing _

/-- A node that has a child refuses every call. -/
theorem on_call_of_child (h : m.nodes[self]? = some n) (hopen : n.closed = false)
    (hchild : n.child.isSome) (c : Call) :
    (call self c).on m =
      (.error (if c = .close ∧ n.parent = none then .nothingToClose else .nestedScopeOpen), m) := by
  have hcheck := on_checkOpen_of_open h hopen
  have hcovered : (checkNoOpenChild self).on m = (.error .nestedScopeOpen, m) := by
    rw [on_checkNoOpenChild h, hchild]
    rfl
  by_cases hc : c = .close
  · subst hc
    rcases hparent : n.parent with _ | parent
    · rw [if_pos ⟨rfl, rfl⟩]
      exact on_close_of_no_parent h hopen hparent
    · rw [if_neg (by simp), call, close, on_bind_ok hcheck,
        on_bind_ok (on_requireParent_of_some h hparent _)]
      exact on_bind_error hcovered _
  · rw [if_neg fun hboth ↦ hc hboth.1]
    cases c with
    | binary => exact (on_bind_ok hcheck _).trans (on_bind_error hcovered _)
    | unary => exact (on_bind_ok hcheck _).trans (on_bind_error hcovered _)
    | openGroup => exact (on_bind_ok hcheck _).trans (on_bind_error hcovered _)
    | close => exact absurd rfl hc

/-! ## Any call -/

/-- **A call that fails has written nothing.** -/
theorem exists_on_call_eq_atomically (self : Address) (c : Call) (m : Memory) :
    ∃ e, (call self c).on m = m.atomically e := by
  rcases hnode : m.nodes[self]? with _ | n
  · exact ⟨.error _, on_call_of_none hnode c⟩
  by_cases hclosed : n.closed = true
  · exact ⟨.error _, on_call_of_closed hnode hclosed c⟩
  rw [Bool.not_eq_true] at hclosed
  rcases hchild : n.child with _ | child
  · have h : m.Exposed self n := ⟨hnode, hclosed, hchild⟩
    cases c with
    | binary op operand scale => exact ⟨_, on_binary h op operand scale⟩
    | unary op scale => exact ⟨_, on_unary h op scale⟩
    | openGroup op operand scale => exact ⟨_, on_openGroup h op operand scale⟩
    | close =>
      rcases hparent : n.parent with _ | parent
      · exact ⟨.error _, on_close_of_no_parent hnode hclosed hparent⟩
      · exact ⟨_, on_close h hparent⟩
  · exact ⟨.error _, on_call_of_child hnode hclosed (by rw [hchild]; rfl) c⟩

theorem exposed_of_on_call_eq_ok {c : Call} {a : Address} (h : (call self c).on m = (.ok a, m')) :
    ∃ n, m.Exposed self n := by
  rcases hnode : m.nodes[self]? with _ | n
  · rw [on_call_of_none hnode] at h
    cases h
  by_cases hclosed : n.closed = true
  · rw [on_call_of_closed hnode hclosed] at h
    cases h
  rw [Bool.not_eq_true] at hclosed
  rcases hchild : n.child with _ | child
  · exact ⟨n, hnode, hclosed, hchild⟩
  · rw [on_call_of_child hnode hclosed (by rw [hchild]; rfl)] at h
    cases h

/-- A call succeeds exactly in the four ways that `Performs` lists. -/
theorem on_call_eq_ok_iff {c : Call} {a : Address} :
    (call self c).on m = (.ok a, m') ↔ m.Performs self c a m' := by
  constructor
  · intro hok
    obtain ⟨n, h⟩ := exposed_of_on_call_eq_ok hok
    cases c with
    | binary op operand scale =>
      rw [call, on_binary h, Memory.atomically_eq_ok_iff] at hok
      obtain ⟨x, hx, hok⟩ := Fault.bind_eq_ok.1 hok
      obtain ⟨v, hv, hok⟩ := Fault.bind_eq_ok.1 hok
      obtain ⟨w, hw, hok⟩ := Fault.bind_eq_ok.1 hok
      cases hok
      exact .binary h hx (Fault.require_eq_ok.1 hv) hw
    | unary op scale =>
      rw [call, on_unary h, Memory.atomically_eq_ok_iff] at hok
      obtain ⟨v, hv, hok⟩ := Fault.bind_eq_ok.1 hok
      obtain ⟨w, hw, hok⟩ := Fault.bind_eq_ok.1 hok
      cases hok
      exact .unary h (Fault.require_eq_ok.1 hv) hw
    | openGroup op operand scale =>
      rw [call, on_openGroup h, Memory.atomically_eq_ok_iff] at hok
      obtain ⟨s, hs, hok⟩ := Fault.bind_eq_ok.1 hok
      obtain ⟨v, hv, hok⟩ := Fault.bind_eq_ok.1 hok
      cases hok
      exact .openGroup h hs hv
    | close =>
      rcases hparent : n.parent with _ | parent
      · rw [call, on_close_of_no_parent h.node_eq h.closed_eq hparent] at hok
        cases hok
      · rw [call, on_close h hparent, Memory.atomically_eq_ok_iff] at hok
        obtain ⟨w, hw, hok⟩ := Fault.bind_eq_ok.1 hok
        obtain ⟨v, hv, hok⟩ := Fault.bind_eq_ok.1 hok
        cases hok
        exact .close h hparent (Fault.require_eq_ok.1 hw) hv
  · rintro (⟨h, hx, hv, hw⟩ | ⟨h, hv, hw⟩ | ⟨h, hs, hv⟩ | ⟨h, hparent, hw, hv⟩)
    · rw [call, on_binary h, Memory.atomically_eq_ok_iff]
      exact Fault.bind_eq_ok.2 ⟨_, hx, Fault.bind_eq_ok.2
        ⟨_, Fault.require_eq_ok.2 hv, Fault.bind_eq_ok.2 ⟨_, hw, rfl⟩⟩⟩
    · rw [call, on_unary h, Memory.atomically_eq_ok_iff]
      exact Fault.bind_eq_ok.2 ⟨_, Fault.require_eq_ok.2 hv, Fault.bind_eq_ok.2 ⟨_, hw, rfl⟩⟩
    · rw [call, on_openGroup h, Memory.atomically_eq_ok_iff]
      exact Fault.bind_eq_ok.2 ⟨_, hs, Fault.bind_eq_ok.2 ⟨_, hv, rfl⟩⟩
    · rw [call, on_close h hparent, Memory.atomically_eq_ok_iff]
      exact Fault.bind_eq_ok.2 ⟨_, Fault.require_eq_ok.2 hw, Fault.bind_eq_ok.2 ⟨_, hv, rfl⟩⟩

/-! ## Beginning a chain -/

theorem on_start (initial : Argument) (m : Memory) :
    (start initial).on m = m.atomically do
      let v ← initial.toDecimal?
      return (m.nodes.length, m.started v) := by
  rw [start]
  refine on_bind_eq_atomically rfl fun v hv ↦ ?_
  obtain ⟨nodes, formulas, ⟨environment, standard, created, installed, tracing⟩, events⟩ := m
  cases tracing <;> rfl

end Action

end Bracket

end ChainedDecimal
