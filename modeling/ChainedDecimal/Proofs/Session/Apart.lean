import ChainedDecimal.Proofs.Session.Calls
import ChainedDecimal.Proofs.Session.Links
import ChainedDecimal.Proofs.Session.Spelled
import ChainedDecimal.Proofs.Spelled.Apart

/-!
# The buffers of the chains of a session

Of every bracketed chain it is remembered what it was begun with and which calls it has carried out,
and nothing else: not which scope a call was addressed to, nor what was asked in vain. This past
tells what each open scope of the chain has written, and the trace of the chain holds just that.
-/

namespace ChainedDecimal

namespace Session

open ChainedDecimal.Bracket

/-! ## What is remembered of a chain -/

/-- What a chain was begun with, and the calls that it has carried out since. -/
structure Past where
  initial : Argument
  calls : List Call

namespace Past

/-- What the open scopes of the chain have written, each into a buffer of its own. -/
def texts (p : Past) : OwnTexts := p.calls.foldl OwnTexts.after (.begin p.initial)

/-- The past with another call. -/
def and (p : Past) (call : Call) : Past := { p with calls := p.calls ++ [call] }

theorem texts_and (p : Past) (call : Call) : (p.and call).texts = p.texts.after call :=
  List.foldl_concat ..

end Past

/-- What is remembered of the chains after a command. Only what succeeds is remembered. -/
def pastsAfter (s : Session) (ps : List Past) : Command → List Past
  | .beginBracket x =>
    match (s.beginBracket x).2.outcome with
    | .error _ => ps
    | .ok _ => ps ++ [⟨x, []⟩]
  | .scope on (.call call) =>
    match (s.onScope on (.call call)).2.outcome with
    | .error _ => ps
    | .ok _ =>
      match (s.scopePlace? on).bind s.treeOf? with
      | none => ps
      | some k => ps.modify k (·.and call)
  | _ => ps

theorem pastsAfter_of_failed {s : Session} {ps : List Past} {command : Command}
    (h : command.movesBrackets = true → ∃ f, (s.step command).2.outcome = .error f) :
    s.pastsAfter ps command = ps := by
  unfold pastsAfter
  split
  · rename_i x
    obtain ⟨f, hf⟩ : ∃ f, (s.beginBracket x).2.outcome = .error f := h rfl
    rw [hf]
  · rename_i on call
    obtain ⟨f, hf⟩ : ∃ f, (s.onScope on (.call call)).2.outcome = .error f := h rfl
    rw [hf]
  · rfl

theorem pastsAfter_begun {s : Session} {ps : List Past} {x : Argument} {o : Outcome}
    (h : (s.step (.beginBracket x)).2.outcome = .ok o) :
    s.pastsAfter ps (.beginBracket x) = ps ++ [⟨x, []⟩] := by
  rw [step] at h
  rw [pastsAfter, h]

theorem pastsAfter_called {s : Session} {ps : List Past} {on : Option String} {call : Call}
    {o : Outcome} {k : Nat} (h : (s.step (.scope on (.call call))).2.outcome = .ok o)
    (htree : (s.scopePlace? on).bind s.treeOf? = some k) :
    s.pastsAfter ps (.scope on (.call call)) = ps.modify k (·.and call) := by
  rw [step] at h
  rw [pastsAfter, h, htree]

/-- What is remembered of the chains after some commands, one after the other. -/
def pasts (s : Session) (ps : List Past) : List Command → List Past
  | [] => ps
  | command :: commands => (s.step command).1.pasts (s.pastsAfter ps command) commands

/-! ## What one command does -/

/-- The trace of every chain holds what the past of the chain says. -/
structure Remembers (s : Session) (ps : List Past) : Prop where
  /-- There is a past for each chain. -/
  length_eq : ps.length = s.brackets.length
  /-- It tells what the scopes of the chain have written. -/
  writesApart : ∀ {k : Nat} {c : Chain}, s.brackets[k]? = some c →
    ∃ p, ps[k]? = some p ∧ c.WritesApart p.texts

variable {s t : Session} {ps : List Past} {k : Nat} {c c' : Chain} {call : Call}

namespace Remembers

theorem of_sameScopes (h : s.Remembers ps) (hst : SameScopes s t) : t.Remembers ps := by
  constructor
  · rw [hst.brackets]
    exact h.length_eq
  · rw [hst.brackets]
    exact h.writesApart

/-- A new chain has written its first value. -/
theorem withNewBracket (h : s.Remembers ps) {x : Argument} {traced : Bool}
    (hc : Chain.begin x traced = .ok c) : (s.withNewBracket c).Remembers (ps ++ [⟨x, []⟩]) := by
  have hlength := h.length_eq
  refine ⟨?_, fun {k d} hd ↦ ?_⟩
  · rw [Session.withNewBracket, List.length_append, List.length_append, hlength]
    rfl
  · rw [Session.withNewBracket, List.getElem?_append] at hd
    rw [List.getElem?_append, hlength]
    split at hd
    · rename_i hlt
      rw [if_pos hlt]
      exact h.writesApart hd
    · rename_i hlt
      rw [if_neg hlt]
      obtain ⟨hk, rfl⟩ : k - s.brackets.length = 0 ∧ c = d := by
        simpa [List.getElem?_singleton] using hd
      rw [hk]
      exact ⟨_, rfl, Chain.writesApart_begin hc⟩

/-- A call is remembered of its own chain. -/
theorem afterCall (h : s.Remembers ps) (hc : s.brackets[k]? = some c) (hm : Chain.Move c call c')
    (j : Nat) : (s.afterCall k c c' j).Remembers (ps.modify k (·.and call)) := by
  have hbrackets : (s.afterCall k c c' j).brackets = s.brackets.set k c' := rfl
  refine ⟨?_, fun {l d} hd ↦ ?_⟩
  · rw [hbrackets, List.length_modify, List.length_set, h.length_eq]
  · rw [List.getElem?_modify]
    by_cases hkl : k = l
    · subst hkl
      rw [brackets_afterCall hc, Option.some.injEq] at hd
      subst hd
      obtain ⟨p, hp, hwrites⟩ := h.writesApart hc
      refine ⟨p.and call, by simp [hp], ?_⟩
      rw [Past.texts_and]
      exact hwrites.move hm
    · rw [hbrackets, List.getElem?_set_ne hkl] at hd
      obtain ⟨p, hp, hwrites⟩ := h.writesApart hd
      exact ⟨p, by simp [hp, hkl], hwrites⟩

theorem step (h : s.Remembers ps) (hs : s.Numbered) (command : Command) :
    (s.step command).1.Remembers (s.pastsAfter ps command) := by
  have hst := hs.bracketStep command
  generalize houtcome : (s.step command).2.outcome = outcome at hst
  generalize (s.step command).1 = t at hst ⊢
  cases hst with
  | idle same failed =>
    rw [pastsAfter_of_failed fun hmoves ↦ houtcome ▸ failed hmoves]
    exact h.of_sameScopes same
  | begun begin_ok =>
    rw [pastsAfter_begun houtcome]
    exact h.withNewBracket begin_ok
  | @called on k i j c c' call on_eq scope_eq chain_eq move _ =>
    have htree : (s.scopePlace? on).bind s.treeOf? = some k := by
      rw [on_eq, Option.bind_some, treeOf?, scope_eq, Option.map_some]
    rw [pastsAfter_called houtcome htree]
    exact h.afterCall chain_eq move j

theorem run (h : s.Remembers ps) (hs : s.Numbered) (commands : List Command) :
    (s.run commands).1.Remembers (s.pasts ps commands) := by
  induction commands generalizing s ps with
  | nil => exact h
  | cons command commands ih => exact ih (h.step hs command) (hs.step command)

end Remembers

theorem remembers_initial : initial.Remembers [] := by
  constructor <;> simp [Session.initial]

/-! ## Any run -/

/-- **The trace of a chain keeps its scopes apart.** In every state that commands lead to, the trace
of a chain is made of what its open scopes have written, as it is told from the calls that the chain
has carried out. -/
theorem keepsApart_run (commands : List Command) {k : Nat} {c : Chain} {t : Trace}
    (hc : (initial.run commands).1.brackets[k]? = some c) (ht : c.trace = some t) :
    ∃ p, (initial.pasts [] commands)[k]? = some p ∧ c.KeepsApart t p.texts := by
  obtain ⟨p, hp, hwrites⟩ :=
    (remembers_initial.run Numbered.initial commands).writesApart hc
  exact ⟨p, hp, hwrites.keepsApart (traceTells_run commands c (List.mem_of_getElem? hc)) ht⟩

/-- A group is closed in a group that goes on, and is negated there together with what is before it.
The addition before both is not. -/
def negatedInGroup : List Command :=
  [.settings (.setTracing true), .beginBracket (.int 5),
    .scope none (.call (.openGroup (.binary .add) (.int 2) .absent)),
    .scope none (.call (.openGroup (.binary .divide) (.int 8) (.int 1))),
    .scope none (.call (.binary .subtract (.int 3) .absent)), .scope none (.call .close),
    .scope none (.call (.unary .negate .absent))]

theorem keepsApart_negatedInGroup :
    ∃ (c : Chain) (t : Trace) (p : Past),
      (initial.run negatedInGroup).1.brackets[0]? = some c ∧ c.trace = some t ∧
      t.render = "5 + (-(2 / (8 - 3)[scale=1])" ∧ p.texts.exposed = "-(2 / (8 - 3)[scale=1])" ∧
      p.texts.around.map OuterText.text = ["5"] ∧ c.KeepsApart t p.texts := by
  have hstate : ∃ c ∈ (initial.run negatedInGroup).1.brackets[0]?, ∃ t ∈ c.trace,
      t.render = "5 + (-(2 / (8 - 3)[scale=1])" := by decide
  obtain ⟨c, hc, t, ht, hrender⟩ := hstate
  obtain ⟨p, hp, hapart⟩ := keepsApart_run negatedInGroup hc ht
  have hpast : ∀ p ∈ (initial.pasts [] negatedInGroup)[0]?,
      p.texts.exposed = "-(2 / (8 - 3)[scale=1])" ∧
        p.texts.around.map OuterText.text = ["5"] := by decide
  obtain ⟨hexposed, haround⟩ := hpast p hp
  exact ⟨c, t, p, hc, ht, hrender, hexposed, haround, hapart⟩

end Session

end ChainedDecimal
