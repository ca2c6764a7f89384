import ChainedDecimal.Proofs.Alike.Step

/-!
# Runs side by side

Two runs are compared by the commands of their calculations, which are alike one by one, whatever is
administered before, between and after them. The replies to these commands are alike one by one, and
so are the calculations in the end.

This is used under both likenesses. If the commands are the same then nothing differs but how
results are represented: what is administered has no influence. And if operands are replaced by
others that represent the same numbers, then all values keep their numbers and all faults their
kinds, as long as no operation meets a limit.
-/

namespace ChainedDecimal

open Decimal (SameNumber)

namespace Session

variable {L : Likeness} {s t : Session}

/-- The replies to the commands of calculations. -/
def answers (s : Session) (cs : List Command) : List Reply :=
  ((cs.zip (s.run cs).2).filter fun p ↦ p.1.isCalculation).map Prod.snd

/-- A run that may be compared: its decimals fit, and its operations respect the likeness. -/
structure Comparable (L : Likeness) (s : Session) (cs : List Command) : Prop where
  numbered : s.Numbered
  bracketsFit : s.BracketsFit
  commands_fit : ∀ c ∈ cs, c.Fits
  covers : ∀ o ∈ s.runOperations cs, L.Covers o

theorem answers_cons (s : Session) (c : Command) (cs : List Command) :
    s.answers (c :: cs) =
      (if c.isCalculation then [(s.step c).2] else []) ++ (s.step c).1.answers cs := by
  rw [answers, run_cons, List.zip_cons_cons, List.filter_cons]
  cases c.isCalculation <;> rfl

namespace Comparable

variable {c : Command} {cs : List Command}

theorem initial (hcs : ∀ c ∈ cs, c.Fits)
    (hc : ∀ o ∈ Session.initial.runOperations cs, L.Covers o) :
    Comparable L Session.initial cs :=
  ⟨.initial, by simp [BracketsFit, Session.initial], hcs, hc⟩

theorem head_fits (h : Comparable L s (c :: cs)) : c.Fits := h.commands_fit c List.mem_cons_self

theorem head_covers (h : Comparable L s (c :: cs)) : ∀ o ∈ s.operations c, L.Covers o :=
  fun o ho ↦ h.covers o (List.mem_append_left _ ho)

theorem tail (h : Comparable L s (c :: cs)) : Comparable L (s.step c).1 cs where
  numbered := h.numbered.step c
  bracketsFit := h.numbered.bracketsFit_step h.bracketsFit h.head_fits
  commands_fit d hd := h.commands_fit d (List.mem_cons_of_mem c hd)
  covers o ho := h.covers o (List.mem_append_right _ ho)

end Comparable

/-- What comes of two runs is alike. -/
structure AlikeRuns (L : Likeness) (s : Session) (cs : List Command) (t : Session)
    (ds : List Command) : Prop where
  answers : List.Forall₂ (Reply.Alike L) (s.answers cs) (t.answers ds)
  session : (s.run cs).1.Alike L (t.run ds).1

namespace AlikeRuns

variable {c d : Command} {cs ds : List Command}

theorem cons_left (hc : c.isCalculation = false) (h : AlikeRuns L (s.step c).1 cs t ds) :
    AlikeRuns L s (c :: cs) t ds := by
  refine ⟨?_, h.session⟩
  rw [answers_cons, hc]
  exact h.answers

theorem cons_right (hd : d.isCalculation = false) (h : AlikeRuns L s cs (t.step d).1 ds) :
    AlikeRuns L s cs t (d :: ds) := by
  refine ⟨?_, h.session⟩
  rw [answers_cons, hd]
  exact h.answers

theorem cons_both (hc : c.isCalculation = true) (hd : d.isCalculation = true)
    (hreply : (s.step c).2.Alike L (t.step d).2) (h : AlikeRuns L (s.step c).1 cs (t.step d).1 ds) :
    AlikeRuns L s (c :: cs) t (d :: ds) := by
  refine ⟨?_, h.session⟩
  rw [answers_cons, answers_cons, hc, hd]
  exact .cons hreply h.answers

end AlikeRuns

namespace Alike

theorem step_left (h : s.Alike L t) {c : Command} (hc : c.isCalculation = false) :
    (s.step c).1.Alike L t := by
  obtain ⟨settings, traces, heq⟩ := exists_administered hc s
  rw [heq]
  exact h.administer_left settings traces

theorem step_right (h : s.Alike L t) {d : Command} (hd : d.isCalculation = false) :
    s.Alike L (t.step d).1 := by
  obtain ⟨settings, traces, heq⟩ := exists_administered hd t
  rw [heq]
  exact h.administer_right settings traces

/-- Alike commands of calculations lead to alike replies and alike calculations. -/
theorem run (h : s.Alike L t) {cs ds : List Command}
    (hcalls : List.Forall₂ (Command.Alike L) (cs.filter Command.isCalculation)
      (ds.filter Command.isCalculation))
    (hs : Comparable L s cs) (ht : Comparable L t ds) : AlikeRuns L s cs t ds := by
  -- Commands that are administered are passed over in either run, until a pair of others is met.
  induction cs generalizing s t ds with
  | nil =>
    induction ds generalizing t with
    | nil => exact ⟨.nil, h⟩
    | cons d ds ih =>
      cases hd : d.isCalculation with
      | true =>
        rw [List.filter_cons_of_pos hd] at hcalls
        cases hcalls
      | false =>
        rw [List.filter_cons_of_neg (by simp [hd])] at hcalls
        exact (ih (h.step_right hd) hcalls ht.tail).cons_right hd
  | cons c cs ih =>
    cases hc : c.isCalculation with
    | false =>
      rw [List.filter_cons_of_neg (by simp [hc])] at hcalls
      exact (ih (h.step_left hc) hcalls hs.tail ht).cons_left hc
    | true =>
      induction ds generalizing t with
      | nil =>
        rw [List.filter_cons_of_pos hc] at hcalls
        cases hcalls
      | cons d ds ih_ds =>
        cases hd : d.isCalculation with
        | false =>
          rw [List.filter_cons_of_neg (by simp [hd]) (l := ds)] at hcalls
          exact (ih_ds (h.step_right hd) hcalls ht.tail).cons_right hd
        | true =>
          rw [List.filter_cons_of_pos hc, List.filter_cons_of_pos hd] at hcalls
          obtain ⟨hcd, hrest⟩ := List.forall₂_cons.1 hcalls
          obtain ⟨hafter, hreply⟩ := h.step hs.bracketsFit ht.bracketsFit hcd hs.head_fits
            ht.head_fits hs.head_covers ht.head_covers
          exact (ih hafter hrest hs.tail ht.tail).cons_both hc hd hreply

end Alike

end Session

end ChainedDecimal
