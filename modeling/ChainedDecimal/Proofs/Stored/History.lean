import ChainedDecimal.Proofs.Session.Names
import ChainedDecimal.Proofs.Stored.Links
import ChainedDecimal.Proofs.Stored.Steps

/-!
# Nodes growing older

A node is never forgotten. As long as it is open it stays in its tree, for its parent is the one
that it was created with, and it may be given a value but never loses one. Once it is closed no
field of it is written again. `Later` says this of two memories, and holds of the memories before
and after any commands.

The roots are the nodes that chains were begun with. So a tree is what was opened under one of them,
directly or not.
-/

namespace ChainedDecimal

namespace Bracket.Memory

/-- The nodes of the first memory are still there in the second. -/
structure Later (m m' : Memory) : Prop where
  /-- A node stays where it is, and keeps having a value if it had one. -/
  value_kept : ∀ {a : Address} {n : Node}, m.nodes[a]? = some n →
    ∃ n', m'.nodes[a]? = some n' ∧ (n.value.isSome → n'.value.isSome)
  /-- A closed node stays closed, and no field of it changes. -/
  closed_kept : ∀ {a : Address} {n : Node}, m.nodes[a]? = some n → n.closed = true →
    m'.nodes[a]? = some n
  /-- A node that is still open has the parent that it had. -/
  parent_kept : ∀ {a : Address} {n n' : Node}, m.nodes[a]? = some n → m'.nodes[a]? = some n' →
    n'.closed = false → n'.parent = n.parent

variable {m m' m'' : Memory} {self a : Address} {n w : Node} {call : Call}

namespace Later

/-- Equal nodes are no older. -/
theorem of_nodes_eq (heq : m'.nodes = m.nodes) : m.Later m' := by
  constructor
  · intro a n hn
    exact ⟨n, by rw [heq, hn], id⟩
  · intro a n hn _
    rw [heq, hn]
  · intro a n n' hn hn' _
    rw [heq, hn, Option.some.injEq] at hn'
    rw [hn']

protected theorem trans (h : m.Later m') (h' : m'.Later m'') : m.Later m'' := by
  constructor
  · intro a n hn
    obtain ⟨n', hn', hkept⟩ := h.value_kept hn
    obtain ⟨n'', hn'', hkept'⟩ := h'.value_kept hn'
    exact ⟨n'', hn'', hkept' ∘ hkept⟩
  · intro a n hn hclosed
    exact h'.closed_kept (h.closed_kept hn hclosed) hclosed
  · intro a n n'' hn hn'' hopen
    obtain ⟨n', hn', -⟩ := h.value_kept hn
    -- What is open at the end was open in between.
    have hopen' : n'.closed = false := by
      by_contra hclosed
      rw [Bool.not_eq_false] at hclosed
      have hsame := h'.closed_kept hn' hclosed
      rw [hn'', Option.some.injEq] at hsame
      rw [hsame, hclosed] at hopen
      cases hopen
    rw [h'.parent_kept hn' hn'' hopen, h.parent_kept hn hn' hopen']

end Later

/-! ## One call -/

theorem later_rewritten (h : m.Exposed self n) (v : Decimal) (formula : Option Nat)
    (change : Trace → Trace) : m.Later (m.rewritten self v formula change) := by
  have hself := h.node_eq
  have hopen := h.closed_eq
  have hnode := getElem?_rewritten hself v formula change
  constructor <;> grind

theorem later_opened (h : m.Exposed self n) (formula : Option Nat) (op : Operator)
    (scale : Option Int) (value : Option Decimal) :
    m.Later (m.opened self formula op scale value) := by
  have hself := h.node_eq
  have hopen := h.closed_eq
  have hnode := getElem?_opened hself formula op scale value
  constructor <;> grind

theorem Sound.later_closed {parent : Address} (h : m.Sound) (he : m.Exposed self n)
    (hparent : n.parent = some parent) (hw : m.nodes[parent]? = some w) (formula : Option Nat)
    (op : Operator) (scale : Option Int) (v : Decimal) :
    m.Later (m.closed self parent formula op scale v) := by
  have hself := he.node_eq
  have hopen := he.closed_eq
  have hne : parent ≠ self := Nat.ne_of_lt (h.parent_lt hself hparent)
  have hnode := getElem?_closed hself hw hne formula op scale v
  have hwopen := @h.closed_alone parent
  obtain ⟨w', hw', hchild⟩ := h.child_of_parent hself hparent
  constructor <;> grind

theorem later_started (m : Memory) (value : Option Decimal) : m.Later (m.started value) := by
  obtain ⟨formula, hnode⟩ := m.exists_getElem?_started value
  constructor <;> grind

/-- A call leads to older nodes. -/
theorem Sound.later (h : m.Sound) (hp : m.Performs self call a m') : m.Later m' := by
  cases hp with
  | binary exposed => exact later_rewritten exposed _ _ _
  | unary exposed => exact later_rewritten exposed _ _ _
  | openGroup exposed => exact later_opened exposed _ _ _ _
  | close exposed parent_eq node_eq => exact h.later_closed exposed parent_eq node_eq _ _ _ _

/-! ## Roots -/

/-- No call makes a root, or takes one away. -/
theorem Sound.isRoot_iff (h : m.Sound) (hp : m.Performs self call a m') {r : Address} :
    m'.IsRoot r ↔ m.IsRoot r := by
  unfold IsRoot
  cases hp with
  | binary exposed =>
    rw [getElem?_rewritten exposed.node_eq]
    grind [exposed.node_eq]
  | unary exposed =>
    rw [getElem?_rewritten exposed.node_eq]
    grind [exposed.node_eq]
  | openGroup exposed =>
    rw [getElem?_opened exposed.node_eq]
    grind [exposed.node_eq, Node.fresh]
  | close exposed parent_eq node_eq =>
    have hlt := h.parent_lt exposed.node_eq parent_eq
    rw [getElem?_closed exposed.node_eq node_eq (Nat.ne_of_lt hlt)]
    grind [exposed.node_eq]

/-- The node that a chain is begun with is a root, and the only new one. -/
theorem isRoot_started_iff {value : Option Decimal} {r : Address} :
    (m.started value).IsRoot r ↔ m.IsRoot r ∨ r = m.nodes.length := by
  obtain ⟨formula, hnode⟩ := m.exists_getElem?_started value
  unfold IsRoot
  rw [hnode]
  by_cases hr : r = m.nodes.length
  · simp [hr, Node.fresh]
  · simp [hr]

theorem isRoot_congr (heq : m'.nodes = m.nodes) {r : Address} : m'.IsRoot r ↔ m.IsRoot r := by
  rw [IsRoot, IsRoot, heq]

end Bracket.Memory

namespace StoredSession

open ChainedDecimal.Bracket
open ChainedDecimal.Session (Command scopeName nameOf_injective)

variable {s : StoredSession} {command : Command}

/-! ## Any command -/

theorem sound_step (h : s.memory.Sound) (command : Command) :
    (s.step command).1.memory.Sound := by
  have hst := s.nodeStep command
  generalize (s.step command).2.outcome = outcome at hst
  generalize (s.step command).1 = t at hst ⊢
  cases hst with
  | idle nodes_eq => exact h.of_nodes_eq nodes_eq
  | begun => exact (h.started _).of_nodes_eq rfl
  | called _ performs => exact (h.performs performs).of_nodes_eq rfl

theorem later_step (h : s.memory.Sound) (command : Command) :
    s.memory.Later (s.step command).1.memory := by
  have hst := s.nodeStep command
  generalize (s.step command).2.outcome = outcome at hst
  generalize (s.step command).1 = t at hst ⊢
  cases hst with
  | idle nodes_eq => exact .of_nodes_eq nodes_eq
  | begun => exact (Memory.later_started _ _).trans (.of_nodes_eq rfl)
  | called _ performs => exact (h.later performs).trans (.of_nodes_eq rfl)

/-- A command makes a root exactly if it begins a chain and is answered with it. -/
theorem isRoot_step_iff (h : s.memory.Sound) {r : Address} :
    (s.step command).1.memory.IsRoot r ↔ s.memory.IsRoot r ∨ ∃ x, command = .beginBracket x ∧
      (s.step command).2.outcome = .ok (.scope (scopeName r)) := by
  have hst := s.nodeStep command
  generalize (s.step command).2.outcome = outcome at hst ⊢
  generalize (s.step command).1 = t at hst ⊢
  cases hst with
  | idle nodes_eq failed =>
    refine (Memory.isRoot_congr nodes_eq).trans (Iff.symm (or_iff_left ?_))
    rintro ⟨x, rfl, hok⟩
    obtain ⟨f, hf⟩ := failed rfl
    rw [hf] at hok
    cases hok
  | @begun x v =>
    refine (Memory.isRoot_congr rfl).trans (Memory.isRoot_started_iff.trans ?_)
    refine or_congr_right ⟨?_, ?_⟩
    · rintro rfl
      exact ⟨x, rfl, rfl⟩
    · rintro ⟨-, -, hname⟩
      simp only [Except.ok.injEq, Session.Outcome.scope.injEq] at hname
      exact (nameOf_injective "n" hname).symm
  | called _ performs =>
    refine ((Memory.isRoot_congr rfl).trans (h.isRoot_iff performs)).trans ?_
    refine Iff.symm (or_iff_left ?_)
    rintro ⟨x, hx, -⟩
    cases hx

/-! ## Any run -/

theorem sound_run (h : s.memory.Sound) (commands : List Command) :
    (s.run commands).1.memory.Sound := by
  induction commands generalizing s with
  | nil => exact h
  | cons c cs ih => exact ih (sound_step h c)

theorem later_run (h : s.memory.Sound) (commands : List Command) :
    s.memory.Later (s.run commands).1.memory := by
  induction commands generalizing s with
  | nil => exact .of_nodes_eq rfl
  | cons c cs ih => exact (later_step h c).trans (ih (sound_step h c))

theorem sound_initial : initial.memory.Sound := by
  constructor <;> simp [initial, memory]

/-- After a run the roots are those before, and the nodes that chains were begun with. -/
theorem isRoot_run_iff (h : s.memory.Sound) {commands : List Command} {r : Address} :
    (s.run commands).1.memory.IsRoot r ↔ s.memory.IsRoot r ∨
      ∃ before x after, commands = before ++ .beginBracket x :: after ∧
        ((s.run before).1.step (.beginBracket x)).2.outcome = .ok (.scope (scopeName r)) := by
  induction commands generalizing s with
  | nil => simp [run]
  | cons c cs ih =>
    rw [run_cons]
    refine (ih (sound_step h c)).trans ?_
    rw [isRoot_step_iff h, or_assoc]
    refine or_congr_right ⟨?_, ?_⟩
    · rintro (⟨x, rfl, hok⟩ | ⟨before, x, after, rfl, hok⟩)
      · exact ⟨[], x, cs, rfl, hok⟩
      · exact ⟨c :: before, x, after, rfl, hok⟩
    · rintro ⟨before, x, after, heq, hok⟩
      rcases before with _ | ⟨d, before⟩
      · obtain ⟨rfl, -⟩ := List.cons.inj heq
        exact Or.inl ⟨x, rfl, hok⟩
      · obtain ⟨rfl, rfl⟩ := List.cons.inj heq
        exact Or.inr ⟨before, x, after, rfl, hok⟩

/-- **The scopes of a session are nested**, in every state that any commands lead to. From then on
no node loses its value or its tree, whatever is asked, and a closed node does not change at all.
The nodes that chains are begun with are the roots of the trees, so they are never closed, and there
is no other tree. -/
theorem linked_and_later_of_run (before after : List Command) :
    (initial.run before).1.memory.Linked ∧
      (initial.run before).1.memory.Later (initial.run (before ++ after)).1.memory ∧
      ∀ r, (initial.run before).1.memory.IsRoot r ↔
        ∃ earlier x later, before = earlier ++ .beginBracket x :: later ∧
          ((initial.run earlier).1.step (.beginBracket x)).2.outcome =
            .ok (.scope (scopeName r)) := by
  have h := sound_run sound_initial before
  refine ⟨h.linked, ?_, fun r ↦ ?_⟩
  · rw [run_append]
    exact later_run h after
  · refine (isRoot_run_iff sound_initial).trans (or_iff_right ?_)
    simp [Memory.IsRoot, initial, memory]

end StoredSession

end ChainedDecimal
