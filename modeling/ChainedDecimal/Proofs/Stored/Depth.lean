import ChainedDecimal.Bracket.Node
import Mathlib.Data.Fintype.Card

/-!
# Depths

The depth of a node is the number of parents that are passed on the way out of all scopes.
`Outwards` says how many these are, and bounds no steps. A way out passes no node twice, as going on
from there would pass it again and again, so it is never longer than the memory, and the bound on
the steps of `climb` costs nothing.
-/

namespace ChainedDecimal

namespace Bracket

namespace Memory

/-- The way out of a scope, the scope included, passes so many nodes. -/
inductive Outwards (m : Memory) : Option Address → Nat → Prop
  | outside : m.Outwards none 0
  | parent {a : Address} {n : Node} {d : Nat} : m.nodes[a]? = some n → m.Outwards n.parent d →
      m.Outwards (some a) (d + 1)

variable {m : Memory} {scope : Option Address} {a : Address} {n : Node} {d e : Nat}

namespace Outwards

theorem unique (h : m.Outwards scope d) (h' : m.Outwards scope e) : d = e := by
  induction h generalizing e with
  | outside =>
    cases h'
    rfl
  | parent hn _ ih =>
    obtain - | ⟨hn', h'⟩ := h'
    cases hn.symm.trans hn'
    rw [ih h']

/-- A way out passes a node with any smaller number of nodes left. -/
theorem exists_remaining (h : m.Outwards scope d) {i : Nat} (hi : i < d) :
    ∃ a, a < m.nodes.length ∧ m.Outwards (some a) (i + 1) := by
  induction h with
  | outside => exact absurd hi (Nat.not_lt_zero i)
  | parent hn hrest ih =>
    rcases Nat.lt_succ_iff_lt_or_eq.1 hi with hlt | rfl
    · exact ih hlt
    · exact ⟨_, (List.getElem?_eq_some_iff.1 hn).1, .parent hn hrest⟩

/-- A way out is not longer than the memory. -/
theorem le_length (h : m.Outwards scope d) : d ≤ m.nodes.length := by
  choose passed hpassed hleft using fun i : Fin d ↦ h.exists_remaining i.isLt
  -- The nodes on the way are different, as each has another number of nodes left.
  have hinj : Function.Injective fun i ↦ (⟨passed i, hpassed i⟩ : Fin m.nodes.length) := by
    intro i j hij
    have heq : passed i = passed j := congrArg Fin.val hij
    exact Fin.ext (Nat.succ.inj ((heq ▸ hleft i).unique (hleft j)))
  simpa using Fintype.card_le_of_injective _ hinj

/-- With steps enough, `climb` counts the nodes on the way out. -/
theorem climb_eq (h : m.Outwards scope d) {limit : Nat} (hd : d ≤ limit) (k : Nat) :
    m.climb limit scope k = some (k + d) := by
  induction h generalizing limit k with
  | outside =>
    rw [climb]
    rfl
  | @parent a n d hn _ ih =>
    obtain ⟨limit, rfl⟩ := Nat.exists_eq_add_one_of_ne_zero (Nat.ne_zero_of_lt hd)
    have hclimb : m.climb (limit + 1) (some a) k = m.climb limit n.parent (k + 1) := by
      simp [climb, hn]
    rw [hclimb, ih (Nat.le_of_succ_le_succ hd), Nat.add_right_comm, Nat.add_assoc]

theorem depth?_eq (hn : m.nodes[a]? = some n) (h : m.Outwards n.parent d) :
    m.depth? a = some d := by
  simp [depth?, hn, h.climb_eq h.le_length]

theorem view?_eq (hn : m.nodes[a]? = some n) (h : m.Outwards n.parent d) :
    m.view? a = some ⟨n.value, n.pending, n.scale, n.parent, n.child, d, n.closed⟩ := by
  simp [view?, hn, h.depth?_eq hn]

end Outwards

/-- What `climb` counts is the nodes on a way out. -/
theorem outwards_of_climb {limit k : Nat} (h : m.climb limit scope k = some e) :
    ∃ d, m.Outwards scope d ∧ e = k + d := by
  induction limit generalizing scope k with
  | zero =>
    rcases scope with _ | a
    · exact ⟨0, .outside, (Option.some.inj h).symm⟩
    · simp [climb] at h
  | succ limit ih =>
    rcases scope with _ | a
    · exact ⟨0, .outside, (Option.some.inj h).symm⟩
    · simp only [climb, Option.bind_eq_bind, Option.bind_eq_some_iff] at h
      obtain ⟨n, hn, h⟩ := h
      obtain ⟨d, hd, rfl⟩ := ih h
      exact ⟨d + 1, .parent hn hd, by omega⟩

/-- The depth of a node is the number of nodes on the way out from its parent on, and it has none
exactly if there is no way out. -/
theorem depth?_eq_some_iff (hn : m.nodes[a]? = some n) :
    m.depth? a = some d ↔ m.Outwards n.parent d := by
  refine ⟨fun h ↦ ?_, fun h ↦ h.depth?_eq hn⟩
  rw [depth?, hn] at h
  obtain ⟨e, he, rfl⟩ := outwards_of_climb h
  rwa [Nat.zero_add]

end Memory

end Bracket

end ChainedDecimal
