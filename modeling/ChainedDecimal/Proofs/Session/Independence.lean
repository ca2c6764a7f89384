import ChainedDecimal.Proofs.Session.Alone

/-!
# Chains do not influence each other

Calls on any number of bracketed chains may be given in any order, and each chain sees its own ones
only. What a call comes to, up to names, is what it comes to where the calls on the other chains
are left out: in a session with the same settings in which the chain is begun and nothing else is.

The pool is all that chains share. What it answers with depends on what it has been asked, so that a
result may be represented in another way where other results came before it; but it represents the
same number.
-/

namespace ChainedDecimal

namespace Session

variable {s t : Session} {cs : List Command} {k : Nat}

/-- What a command on a chain came to: the reply, and the text of the chain afterwards. -/
structure Turn where
  reply : Reply
  formula : Option String

/-- The same, up to names. -/
structure Turn.Renamed (N : String → String → Prop) (x y : Turn) : Prop where
  reply : x.reply.Renamed N y.reply
  formula_eq : x.formula = y.formula

/-- What a command comes to for the chain at a place. -/
def turn (s : Session) (k : Nat) (command : Command) : Turn :=
  ⟨(s.step command).2, (s.step command).1.brackets[k]?.bind Bracket.Chain.formula?⟩

/-- What the commands of a run come to for the chain at a place. -/
def turns (s : Session) (k : Nat) : List Command → List Turn
  | [] => []
  | c :: cs => s.turn k c :: turns (s.step c).1 k cs

/-- The commands of a run on the chain at a place, as they are given where it is alone, and what
they come to in the run. -/
def ownTurns (s : Session) (k : Nat) : List Command → List (Command × Turn)
  | [] => []
  | c :: cs =>
    ((s.ownCommand? k c).map fun own ↦ (own, s.turn k c)).toList ++ ownTurns (s.step c).1 k cs

/-- The commands of a run on the chain at a place, as they are given where it is alone. -/
def ownCommands (s : Session) (k : Nat) (cs : List Command) : List Command :=
  (s.ownTurns k cs).map Prod.fst

/-- For the chain at a place a run is as if its own commands had been the only ones. -/
structure Undisturbed (s : Session) (cs : List Command) (k : Nat) : Prop where
  /-- Every command on the chain comes to the same as where the chain is alone, up to names. -/
  turns : List.Forall₂ (Turn.Renamed ((s.run cs).1.Named k)) ((s.ownTurns k cs).map Prod.snd)
    (s.alone.turns 0 (s.ownCommands k cs))
  /-- So the whole chain is the same afterwards. -/
  chain_eq : (s.run cs).1.brackets[k]? = (s.alone.run (s.ownCommands k cs)).1.brackets[0]?
  /-- The names are those of one scope each. -/
  names : ∀ {a b a' b'}, (s.run cs).1.Named k a b → (s.run cs).1.Named k a' b' →
    (a = a' ↔ b = b')
  /-- A beginning that is refused, and makes no chain, is refused in the same way anywhere. -/
  refused : ∀ {x f}, ((s.run cs).1.step (.beginBracket x)).2.outcome = .error f →
    s.alone.step (.beginBracket x) = (s.alone, .of (.error f))

/-! ## Any run -/

/-- Each command on the chain is answered as where the chain is alone, and the others leave it
alone. -/
theorem AloneIn.run (h : s.AloneIn k t) (hon : ∀ c ∈ cs, c.onBrackets = true) :
    List.Forall₂ (Turn.Renamed ((s.run cs).1.Named k)) ((s.ownTurns k cs).map Prod.snd)
        (t.turns 0 (s.ownCommands k cs)) ∧
      (s.run cs).1.AloneIn k (t.run (s.ownCommands k cs)).1 := by
  induction cs generalizing s t with
  | nil => exact ⟨.nil, h⟩
  | cons c cs ih =>
    have hrest : ∀ d ∈ cs, d.onBrackets = true := fun d hd ↦ hon d (List.mem_cons_of_mem c hd)
    cases hown : s.ownCommand? k c with
    | none =>
      have hafter := h.step_other (hon c List.mem_cons_self) hown
      have hturns : s.ownTurns k (c :: cs) = (s.step c).1.ownTurns k cs := by
        rw [ownTurns, hown]
        rfl
      rw [ownCommands, hturns, run_cons]
      exact ih hafter hrest
    | some own =>
      obtain ⟨hreply, hafter⟩ := h.echoes_step hown
      obtain ⟨hturns, hend⟩ := ih hafter hrest
      have hcons : s.ownTurns k (c :: cs) =
          (own, s.turn k c) :: (s.step c).1.ownTurns k cs := by
        rw [ownTurns, hown]
        rfl
      have hnumbered := h.numbered.step c
      have hturn : (s.turn k c).Renamed (((s.step c).1.run cs).1.Named k) (t.turn 0 own) := by
        refine ⟨hreply.mono fun hab ↦ hab.run hnumbered cs, ?_⟩
        exact congrArg (Option.bind · _) hafter.getElem?_brackets.symm
      rw [ownCommands, hcons, run_cons]
      exact ⟨.cons hturn hturns, hend⟩

theorem kind_run (hon : ∀ c ∈ cs, c.onBrackets = true) :
    (s.run cs).1.settings.kind = s.settings.kind := by
  induction cs generalizing s with
  | nil => rfl
  | cons c cs ih =>
    rw [run_cons, ih fun d hd ↦ hon d (List.mem_cons_of_mem c hd)]
    exact kind_step (hon c List.mem_cons_self)

theorem beginBracket_alone {x : Argument} {f : Fault} (h : t.settings.kind = s.settings.kind)
    (hx : (t.step (.beginBracket x)).2.outcome = .error f) :
    s.alone.step (.beginBracket x) = (s.alone, .of (.error f)) := by
  have htracing : t.settings.tracing = s.settings.tracing := (Prod.mk.inj h).1
  cases hc : Bracket.Chain.begin x s.settings.tracing with
  | error g =>
    rw [step, beginBracket_error (htracing ▸ hc)] at hx
    cases hx
    exact beginBracket_error hc
  | ok c =>
    rw [step, beginBracket_ok (htracing ▸ hc)] at hx
    cases hx

/-- **Chains do not influence each other.** From any session that commands lead to, let there be
calls on bracketed chains in any order. For every chain that is begun among them they come to what
its own calls come to alone. -/
theorem undisturbed_of_run (before : List Command) (hon : ∀ c ∈ cs, c.onBrackets = true)
    (hk : (initial.run before).1.brackets.length ≤ k) :
    (initial.run before).1.Undisturbed cs k := by
  have hnumbered := Numbered.initial.run before
  obtain ⟨hturns, hend⟩ := (hnumbered.aloneIn_alone hk).run hon
  constructor
  · exact hturns
  · exact hend.getElem?_brackets.symm
  · exact hend.numbered.named_inj
  · exact beginBracket_alone (kind_run hon)

/-- Two traced chains with a group each, called in turn. Some calls fail: on a covered scope, on a
closed one, and with an operand that is no number. -/
def twoChains : List Command :=
  [.beginBracket (.int 5), .beginBracket (.int 7),
    .scope (some "n0") (.call (.openGroup (.binary .add) (.int 1) .absent)),
    .scope (some "n1") (.call (.openGroup (.binary .subtract) (.int 7) .absent)),
    .scope (some "n0") (.call (.binary .add (.int 1) .absent)),
    .scope (some "n3") (.call .close),
    .scope (some "n1") .result,
    .scope (some "n2") (.call (.binary .subtract (.text "x") .absent)),
    .scope (some "n3") (.call .close),
    .scope (some "n2") (.call .close),
    .scope (some "n0") (.call (.binary .subtract (.int 6) .absent)),
    .scope none .result]

theorem undisturbed_twoChains :
    (∀ c ∈ twoChains, c.onBrackets = true) ∧
      (initial.run [.settings (.setTracing true)]).1.brackets.length ≤ 0 ∧
      (initial.run [.settings (.setTracing true)]).1.Undisturbed twoChains 0 := by
  have hon : ∀ c ∈ twoChains, c.onBrackets = true := by decide
  have hk : (initial.run [.settings (.setTracing true)]).1.brackets.length ≤ 0 := Nat.le_refl 0
  exact ⟨hon, hk, undisturbed_of_run _ hon hk⟩

/-- The calls on the first chain, whose second scope is the third one of the session. -/
example : (initial.run [.settings (.setTracing true)]).1.ownCommands 0 twoChains =
    [.beginBracket (.int 5),
      .scope (some "n0") (.call (.openGroup (.binary .add) (.int 1) .absent)),
      .scope (some "n0") (.call (.binary .add (.int 1) .absent)),
      .scope (some "n1") (.call (.binary .subtract (.text "x") .absent)),
      .scope (some "n1") (.call .close),
      .scope (some "n0") (.call (.binary .subtract (.int 6) .absent)),
      .scope (some "n0") .result] := by
  rfl

end Session

end ChainedDecimal
