import ChainedDecimal.Proofs.Bracket.Faults
import Mathlib.Data.List.Basic

/-!
# Words of calls

The calls that succeeded on a chain, in order, are a word of opening and closing calls with plain
ones between them. This file compares the word with the scopes that are open.

## The invariant

`Unclosed` reads a word from its end: a balanced part, then, if a scope encloses the exposed one,
the call that opened it, before it another balanced part, and so on for each enclosing scope. An
opening call adds a scope with nothing behind it, and a closing call turns the last opening call and
what follows it into part of a balanced word. That such a group is balanced needs the scale: closing
fails for an operator that takes one and was given none.
-/

namespace ChainedDecimal

namespace Bracket

/-- Whether a call opens a group. -/
def Call.opens : Call → Bool
  | .openGroup .. => true
  | _ => false

/-- Whether a call closes a group. -/
def Call.closes : Call → Bool
  | .close => true
  | _ => false

/-- Every group that is opened is closed, every closing call belongs to a group, and the groups that
need a scale were given one. -/
inductive Balanced : List Call → Prop where
  /-- The empty word. -/
  | nil : Balanced []
  /-- A call that neither opens nor closes a group. -/
  | plain {call : Call} {word : List Call} (not_opens : call.opens = false)
      (not_closes : call.closes = false) (rest : Balanced word) : Balanced (call :: word)
  /-- A group. -/
  | group {op : Operator} {operand scale : Argument} {inner word : List Call}
      (scale_given : op.needsScale = true → scale ≠ .absent) (inside : Balanced inner)
      (rest : Balanced word) : Balanced (.openGroup op operand scale :: (inner ++ .close :: word))

variable {word word' : List Call}

theorem Balanced.append (h : Balanced word) (h' : Balanced word') : Balanced (word ++ word') := by
  induction h with
  | nil => exact h'
  | plain not_opens not_closes _ ih => exact .plain not_opens not_closes ih
  | group scale_given inside _ _ ih =>
    rw [List.cons_append, List.append_assoc, List.cons_append]
    exact .group scale_given inside ih

/-- A balanced word opens as many groups as it closes. -/
theorem Balanced.countP_opens (h : Balanced word) :
    word.countP Call.opens = word.countP Call.closes := by
  induction h with
  | nil => rfl
  | plain not_opens not_closes _ ih => simp [not_opens, not_closes, ih]
  | group _ _ _ ih_inside ih_rest =>
    simp only [List.countP_cons, List.countP_append, Call.opens, Call.closes, if_true,
      Bool.false_eq_true, if_false]
    omega

/-- What the calls leave open, innermost first. -/
inductive Unclosed : List Call → List Waiting → Prop where
  /-- Nothing, after a balanced word. -/
  | nothing {word : List Call} (balanced : Balanced word) : Unclosed word []
  /-- One group more, after its opening call and a balanced word. -/
  | group {word inner : List Call} {w : Waiting} {rest : List Waiting} {operand scale : Argument}
      (before : Unclosed word rest) (scale_ok : Chain.openingScale w.pending scale = .ok w.scale)
      (inside : Balanced inner) :
      Unclosed (word ++ .openGroup w.pending operand scale :: inner) (w :: rest)

namespace Unclosed

variable {ws : List Waiting}

theorem append (h : Unclosed word ws) (h' : Balanced word') : Unclosed (word ++ word') ws := by
  cases h with
  | nothing balanced => exact .nothing (balanced.append h')
  | group before scale_ok inside =>
    rw [List.append_assoc, List.cons_append]
    exact .group before scale_ok (inside.append h')

/-- Of the groups that were opened, the open ones were not closed. -/
theorem countP_closes (h : Unclosed word ws) :
    word.countP Call.closes + ws.length = word.countP Call.opens := by
  induction h with
  | nothing balanced => rw [balanced.countP_opens, List.length_nil, Nat.add_zero]
  | group _ _ inside ih =>
    have hinside := inside.countP_opens
    simp only [List.countP_append, List.countP_cons, Call.opens, Call.closes, if_true,
      Bool.false_eq_true, if_false, List.length_cons]
    omega

/-- Nothing is left open exactly if the word is balanced. -/
theorem balanced_iff (h : Unclosed word ws) : Balanced word ↔ ws = [] := by
  constructor
  · intro hword
    have hcount := h.countP_closes
    rw [hword.countP_opens] at hcount
    exact List.length_eq_zero_iff.1 (by omega)
  · rintro rfl
    cases h with
    | nothing balanced => exact balanced

end Unclosed

namespace Chain

variable {c c' : Chain} {call : Call}

/-- A group that could be folded was given the scale that it needs. -/
theorem scale_ne_absent_of_foldGroup {op : Operator} {scale : Argument} {s : Option Int}
    {outer inner : Option Decimal} {v : Decimal} (hs : openingScale op scale = .ok s)
    (hv : foldGroup op s outer inner = .ok v) (hop : op.needsScale = true) : scale ≠ .absent := by
  rintro rfl
  rw [openingScale, if_pos hop] at hs
  cases hs
  simp [foldGroup, hop] at hv

/-- Every move continues the word and what it leaves open. -/
theorem Move.unclosed (hm : Move c call c') (h : Unclosed word c.enclosing) :
    Unclosed (word ++ [call]) c'.enclosing := by
  cases hm with
  | binary => exact h.append (.plain rfl rfl .nil)
  | unary => exact h.append (.plain rfl rfl .nil)
  | @openGroup op _ _ s _ scale_ok =>
    exact Unclosed.group (w := ⟨c.exposed, op, s⟩) h scale_ok .nil
  | @close w rest v enclosing_eq fold_ok =>
    rw [enclosing_eq] at h
    cases h with
    | group before scale_ok inside =>
      -- The word ends in the group that is closed: with its closing call that is a balanced word.
      rw [List.append_assoc, List.cons_append]
      exact before.append
        (.group (scale_ne_absent_of_foldGroup scale_ok fold_ok) inside .nil)

/-! ## Groups that cannot be closed -/

/-- The open scope of a number is nested in a scope where an operator waits that takes a scale and
has none. -/
def Blocked (c : Chain) (id : Nat) : Prop :=
  ∃ (n : Nat) (w : Waiting), c.openIds[n]? = some id ∧ c.enclosing[n]? = some w ∧
    w.pending.needsScale = true ∧ w.scale = none

theorem blocked_opened (c : Chain) {op : Operator} (hop : op.needsScale = true)
    (v : Option Decimal) : (c.opened op none v).Blocked c.size :=
  ⟨0, ⟨c.exposed, op, none⟩, rfl, rfl, hop, rfl⟩

/-- Nothing that succeeds can close such a scope. -/
theorem Blocked.move {id : Nat} (h : c.Blocked id) (hm : Move c call c') : c'.Blocked id := by
  obtain ⟨n, w, hid, hw, hop, hscale⟩ := h
  cases hm with
  | binary => exact ⟨n, w, hid, hw, hop, hscale⟩
  | unary => exact ⟨n, w, hid, hw, hop, hscale⟩
  | openGroup => exact ⟨n + 1, w, hid, hw, hop, hscale⟩
  | @close w' rest v enclosing_eq fold_ok =>
    rw [enclosing_eq] at hw
    cases n with
    | zero =>
      -- The scope would be the one that is closed, and closing it fails for want of a scale.
      cases hw
      simp [foldGroup, hop, hscale] at fold_ok
    | succ n =>
      refine ⟨n, w, ?_, hw, hop, hscale⟩
      rw [openIds_of_enclosing enclosing_eq, List.getElem?_cons_succ] at hid
      rw [openIds_closedInto, hid]

theorem Blocked.isMalformed_close {id : Nat} (h : c.Blocked id) (hwell : c.WellNested) :
    IsMalformed (c.call id .close) := by
  obtain ⟨n, w, hid, hw, hop, hscale⟩ := h
  by_cases hexposed : c.exposed.id = id
  · subst hexposed
    have hlt : 0 < c.openIds.length := by
      rw [length_openIds]
      exact Nat.succ_pos _
    have hn : 0 = n := (List.getElem?_inj hlt hwell.nodup_openIds).1 (by rw [hid]; rfl)
    subst hn
    rw [call_exposed, isMalformed_act_iff, List.head?_eq_getElem?, hw]
    refine ⟨rfl, fun w' hw' ↦ ?_⟩
    cases hw'
    exact ⟨hop, hscale⟩
  · exact isMalformed_call_of_not_exposed hexposed

theorem Blocked.isMalformed_result {id : Nat} (h : c.Blocked id) (id' : Nat) :
    IsMalformed (c.result id') := by
  obtain ⟨n, w, -, hw, -⟩ := h
  refine isMalformed_result_iff.2 (Or.inr fun hnil ↦ ?_)
  rw [hnil] at hw
  cases hw

end Chain

end Bracket

end ChainedDecimal
