import ChainedDecimal.Proofs.Session.Steps

/-!
# Commands up to the first that fails

A formula is written as commands that follow each other, and it ends with the first one that fails.
`attempt` answers commands in this way. What is attempted in two parts may be looked at part by
part: the second one is answered in the session that the first leads to, or not at all.
-/

namespace ChainedDecimal

namespace Session

/-- What answering commands up to the first failure comes to. -/
structure Attempt where
  /-- The session afterwards. -/
  session : Session
  /-- The replies, that of the command that failed included. -/
  replies : List Reply
  /-- Why the attempt ended early. -/
  fault : Option Fault

/-- Answers commands up to the first that fails. -/
def attempt (s : Session) : List Command → Attempt
  | [] => ⟨s, [], none⟩
  | command :: commands =>
    match (s.step command).2.outcome with
    | .error f => ⟨(s.step command).1, [(s.step command).2], some f⟩
    | .ok _ =>
      let rest := (s.step command).1.attempt commands
      { rest with replies := (s.step command).2 :: rest.replies }

variable {s : Session}

theorem attempt_cons_error {command : Command} {commands : List Command} {f : Fault}
    (h : (s.step command).2.outcome = .error f) :
    s.attempt (command :: commands) = ⟨(s.step command).1, [(s.step command).2], some f⟩ := by
  rw [attempt, h]

theorem attempt_cons_ok {command : Command} {commands : List Command} {o : Outcome}
    (h : (s.step command).2.outcome = .ok o) :
    s.attempt (command :: commands) =
      { (s.step command).1.attempt commands with
        replies := (s.step command).2 :: ((s.step command).1.attempt commands).replies } := by
  rw [attempt, h]

theorem exists_replies_cons (s : Session) (command : Command) (commands : List Command) :
    ∃ r rs, (s.attempt (command :: commands)).replies = r :: rs := by
  cases hout : (s.step command).2.outcome with
  | error f => exact ⟨_, [], by rw [attempt_cons_error hout]⟩
  | ok o => exact ⟨_, _, by rw [attempt_cons_ok hout]⟩

theorem Numbered.attempt (h : s.Numbered) (commands : List Command) :
    (s.attempt commands).session.Numbered := by
  induction commands generalizing s with
  | nil => exact h
  | cons command commands ih =>
    cases hout : (s.step command).2.outcome with
    | error f =>
      rw [attempt_cons_error hout]
      exact h.step command
    | ok o =>
      rw [attempt_cons_ok hout]
      exact ih (h.step command)

/-- Commands behind others are answered from where these lead to, unless one of them fails. -/
theorem attempt_append (s : Session) (cs ds : List Command) :
    s.attempt (cs ++ ds) =
      match (s.attempt cs).fault with
      | some _ => s.attempt cs
      | none => { (s.attempt cs).session.attempt ds with
          replies := (s.attempt cs).replies ++ ((s.attempt cs).session.attempt ds).replies } := by
  induction cs generalizing s with
  | nil => rfl
  | cons c cs ih =>
    cases hout : (s.step c).2.outcome with
    | error f => rw [List.cons_append, attempt_cons_error hout, attempt_cons_error hout]
    | ok o =>
      rw [List.cons_append, attempt_cons_ok hout, attempt_cons_ok hout, ih]
      cases ((s.step c).1.attempt cs).fault with
      | some f => rfl
      | none => rw [List.cons_append]

theorem attempt_append_of_fault {cs : List Command} {f : Fault}
    (h : (s.attempt cs).fault = some f) (ds : List Command) :
    s.attempt (cs ++ ds) = s.attempt cs := by
  rw [attempt_append, h]

/-- The last command that was answered is the one that failed. -/
theorem exists_getLast_of_fault {cs : List Command} {f : Fault}
    (h : (s.attempt cs).fault = some f) :
    ∃ r ∈ (s.attempt cs).replies.getLast?, r.outcome = .error f := by
  induction cs generalizing s with
  | nil => cases h
  | cons c cs ih =>
    -- The first command that fails is the last that is answered.
    cases hout : (s.step c).2.outcome with
    | error g =>
      rw [attempt_cons_error hout] at h ⊢
      cases h
      exact ⟨_, rfl, hout⟩
    | ok o =>
      rw [attempt_cons_ok hout] at h ⊢
      obtain ⟨r, hr, hfault⟩ := ih h
      refine ⟨r, ?_, hfault⟩
      rw [List.getLast?_cons, Option.mem_def.1 hr]
      rfl

/-- One command more is answered in the session that the others lead to. -/
theorem attempt_concat_of_ok {cs : List Command} (h : (s.attempt cs).fault = none)
    (command : Command) :
    s.attempt (cs ++ [command]) =
      ⟨((s.attempt cs).session.step command).1,
        (s.attempt cs).replies ++ [((s.attempt cs).session.step command).2],
        match ((s.attempt cs).session.step command).2.outcome with
        | .error f => some f
        | .ok _ => none⟩ := by
  rw [attempt_append, h]
  cases hout : ((s.attempt cs).session.step command).2.outcome with
  | error f => rw [attempt_cons_error hout]
  | ok o =>
    rw [attempt_cons_ok hout]
    rfl

end Session

end ChainedDecimal
