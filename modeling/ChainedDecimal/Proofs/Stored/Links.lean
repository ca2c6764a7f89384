import ChainedDecimal.Proofs.Bracket.Scopes
import ChainedDecimal.Proofs.Stored.Calls
import ChainedDecimal.Proofs.Stored.Depth
import Mathlib.Data.List.Basic
import Mathlib.Logic.ExistsUnique
import Mathlib.Logic.Relation
import Mathlib.Tactic.ByContra

/-!
# The links between nodes

A link has two ends, and each is a field of its own: a node names its parent, and a node names its
child. Calls write these fields one by one, on nodes of a memory in which anything might be written.
`Linked` says that the nodes of a memory are nested scopes all the same.

## The invariant

`Sound` is what every call keeps. It looks at one link at a time. That no node is nested in itself,
which is about paths of any length, comes from `parent_lt`: a node is always younger than its
parent, since a parent is named when a node is created, and never again.

## Trees

A root is an open node without a parent. An open node leads to one root, from parent to parent, and
a root leads to one exposed node, from child to child. So the open nodes of a tree are the path
between the two.
-/

namespace ChainedDecimal

namespace Bracket

namespace Memory

open Relation

/-- The first node names the second as its parent. -/
def ParentLink (m : Memory) (a b : Address) : Prop := ∃ n, m.nodes[a]? = some n ∧ n.parent = some b

/-- The first node names the second as its child. -/
def ChildLink (m : Memory) (a b : Address) : Prop := ∃ n, m.nodes[a]? = some n ∧ n.child = some b

/-- The node is there and was not closed. -/
def IsOpen (m : Memory) (a : Address) : Prop := ∃ n, m.nodes[a]? = some n ∧ n.closed = false

/-- The node was closed. -/
def IsClosed (m : Memory) (a : Address) : Prop := ∃ n, m.nodes[a]? = some n ∧ n.closed = true

/-- The node is open and has no child. -/
def IsExposed (m : Memory) (a : Address) : Prop := ∃ n, m.Exposed a n

/-- The node is open and has no parent. -/
def IsRoot (m : Memory) (a : Address) : Prop :=
  ∃ n, m.nodes[a]? = some n ∧ n.closed = false ∧ n.parent = none

/-- The nodes of a memory are linked as nested scopes should be. -/
structure Linked (m : Memory) : Prop where
  /-- A node names its parent exactly if the parent names the node as its child. -/
  parent_iff_child : ∀ {a b}, m.ParentLink a b ↔ m.ChildLink b a
  /-- Nobody is nested in itself. -/
  no_cycle : ∀ a, ¬TransGen m.ParentLink a a
  /-- The depth of a node without a parent is zero. -/
  depth_of_no_parent : ∀ {a : Address} {n : Node}, m.nodes[a]? = some n → n.parent = none →
    m.depth? a = some 0
  /-- A child is one deeper than its parent, and counting comes to an end for both. -/
  depth_of_parent : ∀ {a b}, m.ParentLink a b →
    ∃ d, m.depth? b = some d ∧ m.depth? a = some (d + 1)
  /-- Nothing waits where there is no child. -/
  nothing_pending : ∀ {a : Address} {n : Node}, m.nodes[a]? = some n → n.child = none →
    n.pending = .plain ∧ n.scale = none
  /-- A scale waits only for a division or a rounding. -/
  pending_of_scale : ∀ {a : Address} {n : Node}, m.nodes[a]? = some n → n.scale.isSome →
    n.pending = .binary .divide ∨ n.pending = .unary .round
  /-- A closed node names no other. -/
  closed_names_none : ∀ {a : Address} {n : Node}, m.nodes[a]? = some n → n.closed = true →
    n.parent = none ∧ n.child = none ∧ m.depth? a = some 0
  /-- No node names a closed one. -/
  closed_not_named : ∀ {a b}, m.IsClosed b → ¬m.ParentLink a b ∧ ¬m.ChildLink a b
  /-- Every open node belongs to the tree of one root. -/
  root_unique : ∀ {a}, m.IsOpen a → ∃! r, m.IsRoot r ∧ ReflTransGen m.ParentLink a r
  /-- Every tree has one exposed node. -/
  exposed_unique : ∀ {r}, m.IsRoot r → ∃! e, m.IsExposed e ∧ ReflTransGen m.ParentLink e r
  /-- The open nodes of a tree are on the way from its exposed node to its root. -/
  open_on_path : ∀ {a e r}, m.IsRoot r → m.IsExposed e → ReflTransGen m.ParentLink e r →
    m.IsOpen a → ReflTransGen m.ParentLink a r → ReflTransGen m.ParentLink e a

/-- What every write to nodes has to keep. -/
structure Sound (m : Memory) : Prop where
  /-- The parent of a node has the node for its child. -/
  child_of_parent : ∀ {a b : Address} {n : Node}, m.nodes[a]? = some n → n.parent = some b →
    ∃ w, m.nodes[b]? = some w ∧ w.child = some a
  /-- The child of a node has the node for its parent. -/
  parent_of_child : ∀ {a b : Address} {w : Node}, m.nodes[b]? = some w → w.child = some a →
    ∃ n, m.nodes[a]? = some n ∧ n.parent = some b
  /-- A parent is older than its child. -/
  parent_lt : ∀ {a b : Address} {n : Node}, m.nodes[a]? = some n → n.parent = some b → b < a
  /-- Nothing waits where there is no child. -/
  nothing_pending : ∀ {a : Address} {n : Node}, m.nodes[a]? = some n → n.child = none →
    n.pending = .plain ∧ n.scale = none
  /-- A scale waits only for an operator that takes one. -/
  needsScale_of_scale : ∀ {a : Address} {n : Node}, m.nodes[a]? = some n → n.scale.isSome →
    n.pending.needsScale = true
  /-- A closed node has left its parent, and nothing is open in it. -/
  closed_alone : ∀ {a : Address} {n : Node}, m.nodes[a]? = some n → n.closed = true →
    n.parent = none ∧ n.child = none

variable {m m' : Memory} {self parent a b : Address} {n w : Node} {v : Decimal}
  {formula : Option Nat} {op : Operator} {scale : Option Int} {value : Option Decimal}
  {call : Call}

/-! ## Nodes after a call -/

theorem getElem?_rewritten (h : m.nodes[self]? = some n) (v : Decimal) (formula : Option Nat)
    (change : Trace → Trace) (a : Address) :
    (m.rewritten self v formula change).nodes[a]? =
      if a = self then some { n with value := some v } else m.nodes[a]? := by
  rw [rewritten, List.getElem?_modify]
  grind

theorem getElem?_opened (h : m.nodes[self]? = some n) (formula : Option Nat) (op : Operator)
    (scale : Option Int) (value : Option Decimal) (a : Address) :
    (m.opened self formula op scale value).nodes[a]? =
      if a = self then some { n with child := some m.nodes.length, pending := op, scale := scale }
      else if a = m.nodes.length then
        some (.fresh value (some self) formula (Chain.openedMark op (m.formula? formula)))
      else m.nodes[a]? := by
  have hlt : self < m.nodes.length := (List.getElem?_eq_some_iff.1 h).1
  rw [opened, List.getElem?_modify]
  grind

theorem getElem?_closed (h : m.nodes[self]? = some n) (hw : m.nodes[parent]? = some w)
    (hne : parent ≠ self) (formula : Option Nat) (op : Operator) (scale : Option Int) (v : Decimal)
    (a : Address) :
    (m.closed self parent formula op scale v).nodes[a]? =
      if a = self then some { n with parent := none, closed := true }
      else if a = parent then
        some { w with value := some v, child := none, pending := .plain, scale := none }
      else m.nodes[a]? := by
  rw [closed, List.getElem?_modify, List.getElem?_modify]
  grind

@[simp] theorem length_rewritten (m : Memory) (self : Address) (v : Decimal) (formula : Option Nat)
    (change : Trace → Trace) :
    (m.rewritten self v formula change).nodes.length = m.nodes.length :=
  List.length_modify ..

@[simp] theorem length_opened (m : Memory) (self : Address) (formula : Option Nat) (op : Operator)
    (scale : Option Int) (value : Option Decimal) :
    (m.opened self formula op scale value).nodes.length = m.nodes.length + 1 := by
  rw [opened, List.length_modify, List.length_append, List.length_singleton]

@[simp] theorem length_closed (m : Memory) (self parent : Address) (formula : Option Nat)
    (op : Operator) (scale : Option Int) (v : Decimal) :
    (m.closed self parent formula op scale v).nodes.length = m.nodes.length := by
  rw [closed, List.length_modify, List.length_modify]

@[simp] theorem length_started (m : Memory) (value : Option Decimal) :
    (m.started value).nodes.length = m.nodes.length + 1 := by
  rw [started]
  split <;> exact List.length_append

/-- A chain begins with one more node, which is not linked to any other. -/
theorem exists_getElem?_started (m : Memory) (value : Option Decimal) :
    ∃ formula, ∀ a : Address, (m.started value).nodes[a]? =
      if a = m.nodes.length then some (.fresh value none formula 0) else m.nodes[a]? := by
  have hnode : ∀ (formula : Option Nat) (a : Address),
      (m.nodes ++ [Node.fresh value none formula 0])[a]? =
        if a = m.nodes.length then some (.fresh value none formula 0) else m.nodes[a]? := by
    intro formula a
    grind
  rw [started]
  split
  · exact ⟨_, hnode _⟩
  · exact ⟨_, hnode _⟩

/-- What a field of a node names is one address. -/
theorem rightUnique_link (m : Memory) (field : Node → Option Address) :
    Relator.RightUnique fun a b : Address ↦ ∃ n, m.nodes[a]? = some n ∧ field n = some b := by
  rintro a b c ⟨n, hn, hb⟩ ⟨n', hn', hc⟩
  rw [hn, Option.some.injEq] at hn'
  subst hn'
  exact Option.some.inj (hb.symm.trans hc)

/-! ## The invariant is kept -/

namespace Sound

/-- A value is no link. -/
theorem rewritten (h : m.Sound) (he : m.Exposed self n) (v : Decimal) (change : Trace → Trace) :
    (m.rewritten self v formula change).Sound := by
  have hself := he.node_eq
  have hnode := getElem?_rewritten hself v formula change
  constructor
  · intro a b n' hn' hparent
    have hbefore := @h.child_of_parent a b
    grind
  · intro a b w' hw' hchild
    have hbefore := @h.parent_of_child a b
    grind
  · intro a b n' hn' hparent
    have hbefore := @h.parent_lt a b
    grind
  · intro a n' hn' hnone
    have hbefore := @h.nothing_pending a
    grind
  · intro a n' hn' hsome
    have hbefore := @h.needsScale_of_scale a
    grind
  · intro a n' hn' hclosed
    have hbefore := @h.closed_alone a
    grind

theorem opened (h : m.Sound) (he : m.Exposed self n)
    (hscale : scale.isSome → op.needsScale = true) :
    (m.opened self formula op scale value).Sound := by
  have hself := he.node_eq
  have hnone := he.child_eq
  have hopen := he.closed_eq
  have hlt : self < m.nodes.length := (List.getElem?_eq_some_iff.1 hself).1
  have hnode := getElem?_opened hself formula op scale value
  simp only [Node.fresh] at hnode
  constructor
  · -- The new node is linked with the one that had no child. All other links are older.
    intro a b n' hn' hparent
    have hbefore := @h.child_of_parent a b
    have holder := @h.parent_lt a b
    grind
  · intro a b w' hw' hchild
    have hbefore := @h.parent_of_child a b
    grind
  · intro a b n' hn' hparent
    have hbefore := @h.parent_lt a b
    grind
  · intro a n' hn' hnone
    have hbefore := @h.nothing_pending a
    grind
  · intro a n' hn' hsome
    have hbefore := @h.needsScale_of_scale a
    grind
  · intro a n' hn' hclosed
    have hbefore := @h.closed_alone a
    grind

theorem closed (h : m.Sound) (he : m.Exposed self n) (hparent : n.parent = some parent)
    (hw : m.nodes[parent]? = some w) : (m.closed self parent formula op scale v).Sound := by
  have hself := he.node_eq
  have hnone := he.child_eq
  have hlt := h.parent_lt hself hparent
  have hnode := getElem?_closed hself hw (Nat.ne_of_lt hlt) formula op scale v
  -- Both ends of one link are cleared, and they are ends of no other.
  obtain ⟨w', hw', hchild⟩ := h.child_of_parent hself hparent
  constructor
  · intro a b n' hn' hparent
    have hbefore := @h.child_of_parent a b
    grind
  · intro a b w' hw' hchild
    have hbefore := @h.parent_of_child a b
    grind
  · intro a b n' hn' hparent
    have hbefore := @h.parent_lt a b
    grind
  · intro a n' hn' hnone
    have hbefore := @h.nothing_pending a
    grind
  · intro a n' hn' hsome
    have hbefore := @h.needsScale_of_scale a
    grind
  · intro a n' hn' hclosed
    have hbefore := @h.closed_alone a
    grind

theorem started (h : m.Sound) (value : Option Decimal) : (m.started value).Sound := by
  obtain ⟨formula, hnode⟩ := m.exists_getElem?_started value
  simp only [Node.fresh] at hnode
  constructor
  · intro a b n' hn' hparent
    have hbefore := @h.child_of_parent a b
    grind
  · intro a b w' hw' hchild
    have hbefore := @h.parent_of_child a b
    grind
  · intro a b n' hn' hparent
    have hbefore := @h.parent_lt a b
    grind
  · intro a n' hn' hnone
    have hbefore := @h.nothing_pending a
    grind
  · intro a n' hn' hsome
    have hbefore := @h.needsScale_of_scale a
    grind
  · intro a n' hn' hclosed
    have hbefore := @h.closed_alone a
    grind

/-- Every call keeps the invariant. -/
theorem performs (h : m.Sound) (hp : m.Performs self call a m') : m'.Sound := by
  cases hp with
  | binary exposed => exact h.rewritten exposed _ _
  | unary exposed => exact h.rewritten exposed _ _
  | openGroup exposed scale_ok => exact h.opened exposed (Chain.needsScale_of_openingScale scale_ok)
  | close exposed parent_eq node_eq => exact h.closed exposed parent_eq node_eq

/-- The invariant speaks of nothing but the nodes. -/
theorem of_nodes_eq (h : m.Sound) (heq : m'.nodes = m.nodes) : m'.Sound := by
  obtain ⟨h₁, h₂, h₃, h₄, h₅, h₆⟩ := h
  constructor <;> rw [heq] <;> assumption

/-! ## Depths -/

/-- There is a way out from every node. -/
theorem exists_outwards (h : m.Sound) (hn : m.nodes[a]? = some n) : ∃ d, m.Outwards n.parent d := by
  induction a using Nat.strongRecOn generalizing n with
  | ind a ih =>
    rcases hparent : n.parent with _ | b
    · exact ⟨0, .outside⟩
    · obtain ⟨w, hw, -⟩ := h.child_of_parent hn hparent
      obtain ⟨d, hd⟩ := ih b (h.parent_lt hn hparent) hw
      exact ⟨d + 1, .parent hw hd⟩

theorem depth?_of_no_parent (hn : m.nodes[a]? = some n) (hparent : n.parent = none) :
    m.depth? a = some 0 :=
  (depth?_eq_some_iff hn).2 (hparent ▸ .outside)

theorem depth?_of_parent (h : m.Sound) (hlink : m.ParentLink a b) :
    ∃ d, m.depth? b = some d ∧ m.depth? a = some (d + 1) := by
  obtain ⟨n, hn, hparent⟩ := hlink
  obtain ⟨w, hw, -⟩ := h.child_of_parent hn hparent
  obtain ⟨d, hd⟩ := h.exists_outwards hw
  have hout : m.Outwards n.parent (d + 1) := hparent ▸ .parent hw hd
  exact ⟨d, (depth?_eq_some_iff hw).2 hd, (depth?_eq_some_iff hn).2 hout⟩

/-! ## Paths -/

theorem parentLink_iff_childLink (h : m.Sound) : m.ParentLink a b ↔ m.ChildLink b a := by
  constructor
  · rintro ⟨n, hn, hparent⟩
    exact h.child_of_parent hn hparent
  · rintro ⟨w, hw, hchild⟩
    exact h.parent_of_child hw hchild

/-- Along links nodes get older. -/
theorem lt_of_transGen (h : m.Sound) (hab : TransGen m.ParentLink a b) : b < a := by
  induction hab with
  | single hlink =>
    obtain ⟨n, hn, hparent⟩ := hlink
    exact h.parent_lt hn hparent
  | tail _ hlink ih =>
    obtain ⟨n, hn, hparent⟩ := hlink
    exact Nat.lt_trans (h.parent_lt hn hparent) ih

theorem not_parentLink_of_isClosed (h : m.Sound) (hb : m.IsClosed b) : ¬m.ParentLink a b := by
  intro hlink
  obtain ⟨w, hw, hchild⟩ := h.parentLink_iff_childLink.1 hlink
  obtain ⟨w', hw', hclosed⟩ := hb
  rw [hw, Option.some.injEq] at hw'
  subst hw'
  rw [(h.closed_alone hw hclosed).2] at hchild
  cases hchild

/-- The parent of a node is open. -/
theorem isOpen_of_parentLink (h : m.Sound) (hlink : m.ParentLink a b) : m.IsOpen b := by
  obtain ⟨w, hw, -⟩ := h.parentLink_iff_childLink.1 hlink
  refine ⟨w, hw, ?_⟩
  by_contra hclosed
  rw [Bool.not_eq_false] at hclosed
  exact h.not_parentLink_of_isClosed ⟨w, hw, hclosed⟩ hlink

/-- The child of a node is open. -/
theorem isOpen_of_childLink (h : m.Sound) (hlink : m.ChildLink b a) : m.IsOpen a := by
  obtain ⟨n, hn, hparent⟩ := h.parentLink_iff_childLink.2 hlink
  refine ⟨n, hn, ?_⟩
  by_contra hclosed
  rw [Bool.not_eq_false] at hclosed
  rw [(h.closed_alone hn hclosed).1] at hparent
  cases hparent

theorem exists_root (h : m.Sound) (ha : m.IsOpen a) :
    ∃ r, m.IsRoot r ∧ ReflTransGen m.ParentLink a r := by
  induction a using Nat.strongRecOn with
  | ind a ih =>
    obtain ⟨n, hn, hopen⟩ := ha
    rcases hparent : n.parent with _ | b
    · exact ⟨a, ⟨n, hn, hopen, hparent⟩, .refl⟩
    · have hlink : m.ParentLink a b := ⟨n, hn, hparent⟩
      obtain ⟨r, hr, hpath⟩ := ih b (h.parent_lt hn hparent) (h.isOpen_of_parentLink hlink)
      exact ⟨r, hr, .head hlink hpath⟩

/-- The induction is on the number of nodes that are younger. -/
theorem exists_exposed (h : m.Sound) (ha : m.IsOpen a) :
    ∃ e, m.IsExposed e ∧ ReflTransGen m.ParentLink e a := by
  induction hk : m.nodes.length - a using Nat.strongRecOn generalizing a with
  | ind k ih =>
    obtain ⟨n, hn, hopen⟩ := ha
    rcases hchild : n.child with _ | c
    · exact ⟨a, ⟨n, hn, hopen, hchild⟩, .refl⟩
    · have hlink : m.ParentLink c a := h.parentLink_iff_childLink.2 ⟨n, hn, hchild⟩
      have halt : a < m.nodes.length := (List.getElem?_eq_some_iff.1 hn).1
      have hfewer : m.nodes.length - c < k :=
        hk ▸ Nat.sub_lt_sub_left halt (h.lt_of_transGen (.single hlink))
      obtain ⟨e, he, hpath⟩ := ih _ hfewer (h.isOpen_of_childLink ⟨n, hn, hchild⟩) rfl
      exact ⟨e, he, hpath.tail hlink⟩

/-- From an exposed node the links lead to every node of its tree that is open. -/
theorem reflTransGen_of_exposed {e r : Address} (h : m.Sound) (he : m.IsExposed e)
    (her : ReflTransGen m.ParentLink e r) (har : ReflTransGen m.ParentLink a r) :
    ReflTransGen m.ParentLink e a := by
  have hswap : m.ParentLink = Function.swap m.ChildLink := by
    funext x y
    exact propext h.parentLink_iff_childLink
  have hunique : Relator.RightUnique m.ChildLink := m.rightUnique_link Node.child
  rw [hswap, reflTransGen_swap] at her har ⊢
  -- A node has one child, so that of two nodes below a third one is below the other.
  rcases ReflTransGen.total_of_right_unique hunique har her with hae | hea
  · exact hae
  · rcases hea.cases_head with rfl | ⟨c, ⟨n, hn, hc⟩, -⟩
    · exact .refl
    · obtain ⟨n', he'⟩ := he
      rw [he'.node_eq, Option.some.injEq] at hn
      subst hn
      rw [he'.child_eq] at hc
      cases hc

/-- From a node the links lead to one root. -/
theorem root_eq {r r' : Address} (hr : m.IsRoot r) (hr' : m.IsRoot r')
    (har : ReflTransGen m.ParentLink a r) (har' : ReflTransGen m.ParentLink a r') : r = r' := by
  have hunique : Relator.RightUnique m.ParentLink := m.rightUnique_link Node.parent
  have hlast : ∀ {x y}, m.IsRoot x → ReflTransGen m.ParentLink x y → x = y := by
    rintro x y ⟨n, hn, -, hnone⟩ hxy
    rcases hxy.cases_head with rfl | ⟨p, ⟨n', hn', hp⟩, -⟩
    · rfl
    · rw [hn, Option.some.injEq] at hn'
      subst hn'
      rw [hnone] at hp
      cases hp
  rcases ReflTransGen.total_of_right_unique hunique har har' with hto | hto
  · exact hlast hr hto
  · exact (hlast hr' hto).symm

/-! ## The links are as they should be -/

theorem linked (h : m.Sound) : m.Linked where
  parent_iff_child := h.parentLink_iff_childLink
  no_cycle := fun a hcycle ↦ Nat.lt_irrefl a (h.lt_of_transGen hcycle)
  depth_of_no_parent := depth?_of_no_parent
  depth_of_parent := h.depth?_of_parent
  nothing_pending := h.nothing_pending
  pending_of_scale := fun hn hscale ↦ Operator.needsScale_iff.1 (h.needsScale_of_scale hn hscale)
  closed_names_none := by
    intro a n hn hclosed
    obtain ⟨hparent, hchild⟩ := h.closed_alone hn hclosed
    exact ⟨hparent, hchild, depth?_of_no_parent hn hparent⟩
  closed_not_named := by
    intro a b hb
    refine ⟨h.not_parentLink_of_isClosed hb, fun hlink ↦ ?_⟩
    obtain ⟨n, hn, hopen⟩ := h.isOpen_of_childLink hlink
    obtain ⟨n', hn', hclosed⟩ := hb
    rw [hn, Option.some.injEq] at hn'
    rw [hn', hclosed] at hopen
    cases hopen
  root_unique := by
    intro a ha
    obtain ⟨r, hr, hpath⟩ := h.exists_root ha
    exact ⟨r, ⟨hr, hpath⟩, fun r' hr' ↦ root_eq hr'.1 hr hr'.2 hpath⟩
  exposed_unique := by
    rintro r ⟨n, hn, hopen, -⟩
    obtain ⟨e, he, hpath⟩ := h.exists_exposed ⟨n, hn, hopen⟩
    refine ⟨e, ⟨he, hpath⟩, fun e' he' ↦ ?_⟩
    -- Of two exposed nodes each is reached from the other, and links only go one way.
    have hthere := h.reflTransGen_of_exposed he hpath he'.2
    have hback := h.reflTransGen_of_exposed he'.1 he'.2 hpath
    rcases reflTransGen_iff_eq_or_transGen.1 hthere with heq | hthere
    · exact heq
    · exact absurd (hthere.trans_left hback) fun hcycle ↦
        Nat.lt_irrefl e (h.lt_of_transGen hcycle)
  open_on_path := fun _ he her _ har ↦ h.reflTransGen_of_exposed he her har

end Sound

end Memory

end Bracket

end ChainedDecimal
