import ChainedDecimal.Proofs.Alike.Step
import ChainedDecimal.Proofs.Spelled.Bracket
import ChainedDecimal.Proofs.Spelled.Closure

/-!
# A formula determines the value

Wherever a calculation is carried out, with brackets or with callables, its formula tells its value:
two calculations with the same formula have the same value, down to the sign, the digits and the
exponent, before the value passes through any pool. It does not matter what else goes on in a
session, nor which calls fail on the way.
-/

namespace ChainedDecimal

namespace Session

open Closure (Note)

variable {s t : Session} {command : Command}

/-! ## Bracketed chains -/

/-- The formulas of all bracketed chains tell the values of their scopes. -/
theorem traceTells_run (commands : List Command) :
    ∀ c ∈ (Session.initial.run commands).1.brackets, c.TraceTells := by
  refine Numbered.initial.run_induction (P := fun s ↦ ∀ c ∈ s.brackets, c.TraceTells)
    (by simp [Session.initial]) (fun {s t} hs hst h ↦ ?_) commands
  cases hst with
  | same same =>
    rw [same.brackets]
    exact h
  | begun begin_ok =>
    intro c hc
    rcases List.mem_append.1 hc with hold | hnew
    · exact h c hold
    · rw [List.mem_singleton.1 hnew]
      exact Bracket.Chain.traceTells_begin begin_ok
  | called chain_eq move =>
    intro c hc
    rcases List.mem_or_eq_of_mem_set hc with hold | rfl
    · exact h c hold
    · exact (h _ (List.mem_of_getElem? chain_eq)).move (hs.wellNested_of_get chain_eq) move

/-! ## Chains with callables -/

/-- Whether a command may add a chain with callables. -/
def Command.onChains : Command → Bool
  | .beginChain _ | .newChain _ _ | .chain _ _ => true
  | _ => false

/-- Two sessions agree about the chains with callables and the groups. -/
structure SameClosures (s t : Session) : Prop where
  /-- The chains are the same. -/
  chains : t.chains = s.chains
  /-- The groups are the same. -/
  groups : t.groups = s.groups

theorem sameClosures_read (engine : String) (formula : Option String) (v : Numeral)
    (status : Status) : SameClosures s (s.read engine formula v status).1 := by
  unfold read finish
  cases s.settings.pooledNumeral v <;> exact ⟨rfl, rfl⟩

theorem sameClosures_callScope {i chain id : Nat} {c : Bracket.Chain} {call : Bracket.Call} :
    SameClosures s (s.callScope i chain id c call).1 := by
  unfold callScope
  split
  · exact ⟨rfl, rfl⟩
  · dsimp only
    split <;> exact ⟨rfl, rfl⟩

theorem sameClosures_onScope (on : Option String) (request : ScopeRequest) :
    SameClosures s (s.onScope on request).1 := by
  rcases s.onScope_cases on request with heq | ⟨i, k, id, c, -, -, -, heq⟩
  · rw [heq]
    exact ⟨rfl, rfl⟩
  · rw [heq]
    unfold askScope
    split
    · exact sameClosures_callScope
    · split
      · exact ⟨rfl, rfl⟩
      · exact sameClosures_read _ _ _ _
    · split <;> exact ⟨rfl, rfl⟩
    · exact ⟨rfl, rfl⟩

/-- All other commands leave the chains as they are. -/
theorem chains_step (h : command.onChains = false) : (s.step command).1.chains = s.chains := by
  cases hcalc : command.isCalculation with
  | false =>
    obtain ⟨settings, traces, heq⟩ := exists_administered hcalc s
    rw [heq]
  | true =>
    cases command with
    | beginBracket initial =>
      rw [step, beginBracket]
      split <;> rfl
    | scope on request => exact (sameClosures_onScope on request).chains
    | compareChains a b =>
      rw [step, compareChains]
      split <;> rfl
    | newGroup traced => rfl
    | group on request =>
      rw [step, onGroup]
      split
      · rfl
      · split
        · rfl
        · cases request <;> rfl
    | evaluate script traced => rfl
    | calculate c =>
      rw [step, calculate]
      split <;> rfl
    | beginChain initial => cases h
    | newChain value formula => cases h
    | chain on request => cases h
    | _ => cases hcalc

/-- Whether a note is that of a fault. -/
def isFaultNote : Note → Bool
  | .fault _ => true
  | .state _ _ => false

/-- Whether a command that succeeded did so without catching a fault. -/
def Reply.caughtNone (r : Reply) : Bool :=
  match r.outcome, r.status with
  | .ok _, .notes ns => ns.all fun n ↦ !isFaultNote n
  | _, _ => true

/-- Whether the chains that a command adds are calculated: none is put together from a value and a
formula, and callables answer with groups that they were given and catch no fault. -/
def calculates (c : Command) (r : Reply) : Bool :=
  match c with
  | .newChain _ _ => false
  | .chain _ (.join _ operand _) => operand.answersGiven && r.caughtNone
  | _ => true

theorem calculated_askChain {c : Closure.Chain} {on : Option String} {request : ChainRequest}
    (hs : ∀ c ∈ s.chains, c.Calculated) (hc : c.Calculated)
    (hcalc : calculates (.chain on request) (s.askChain c request).2 = true) :
    ∀ d ∈ (s.askChain c request).1.chains, d.Calculated := by
  match request with
  | .join op operand scale =>
    obtain ⟨hgiven, hcaught⟩ := Bool.and_eq_true_iff.1 hcalc
    rw [askChain] at hcaught ⊢
    rcases hjoin : c.join op operand scale with ⟨f | c', notes⟩
    · exact hs
    · rw [hjoin] at hcaught
      have huncaught : ∀ f, Note.fault f ∉ notes := by
        intro f hf
        have hall : notes.all (fun n ↦ !isFaultNote n) = true := hcaught
        exact absurd (List.all_eq_true.1 hall _ hf) (by simp [isFaultNote])
      exact List.forall_mem_append.2
        ⟨hs, List.forall_mem_singleton.2 (.join hc hgiven huncaught hjoin)⟩
  | .change op scale =>
    rw [askChain]
    rcases hchange : c.unary op scale with f | c'
    · exact hs
    · exact List.forall_mem_append.2 ⟨hs, List.forall_mem_singleton.2 (.change hc hchange)⟩
  | .result =>
    rw [askChain, (sameClosures_read _ _ _ _).chains]
    exact hs
  | .refused why => exact hs

theorem calculated_step (hs : ∀ c ∈ s.chains, c.Calculated)
    (hcalc : calculates command (s.step command).2 = true) :
    ∀ c ∈ (s.step command).1.chains, c.Calculated := by
  cases hon : command.onChains with
  | false =>
    rw [chains_step hon]
    exact hs
  | true =>
    cases command with
    | beginChain initial =>
      rw [step, beginChain]
      split
      · exact hs
      · rename_i c hc
        exact List.forall_mem_append.2 ⟨hs, List.forall_mem_singleton.2 (.begin hc)⟩
    | newChain value formula => cases hcalc
    | chain on request =>
      rw [step] at hcalc ⊢
      rcases hget : s.chain? on with _ | c
      · rw [onChain_of_none hget]
        exact hs
      · rw [onChain_of_some hget] at hcalc ⊢
        exact calculated_askChain hs (hs c (mem_of_chain? hget)) hcalc
    | _ => cases hon

/-- If all commands calculate, all chains are calculated. -/
theorem calculated_run {cs : List Command} (hs : ∀ c ∈ s.chains, c.Calculated)
    (hcalc : ∀ p ∈ cs.zip (s.run cs).2, calculates p.1 p.2 = true) :
    ∀ c ∈ (s.run cs).1.chains, c.Calculated := by
  induction cs generalizing s with
  | nil => exact hs
  | cons c cs ih =>
    rw [run_cons, List.zip_cons_cons, List.forall_mem_cons] at hcalc
    exact ih (calculated_step hs hcalc.1) hcalc.2

/-! ## Formulas and values -/

/-- In the session there is a calculation with this formula, and it has come to this value. -/
inductive Calculated (s : Session) (text : String) (v : Decimal) : Prop where
  /-- A bracketed chain of which every parenthesis is closed again. -/
  | brackets {c : Bracket.Chain} (mem : c ∈ s.brackets) (enclosing_eq : c.enclosing = [])
    (value_eq : c.exposed.value = some v) (formula_eq : c.formula? = some text)
  /-- A chain with callables that is calculated from a first value. -/
  | callables {c : Closure.Chain} (mem : c ∈ s.chains) (calculated : c.Calculated)
    (value_eq : c.value = .finite v) (formula_eq : c.formula = some text)

theorem spells_of_calculated {cs : List Command} {text : String} {v : Decimal}
    (h : (Session.initial.run cs).1.Calculated text v) : Spells text (some v) := by
  cases h with
  | brackets mem enclosing_eq value_eq formula_eq =>
    rw [← value_eq]
    exact (traceTells_run cs _ mem).spells enclosing_eq formula_eq
  | callables _ calculated value_eq formula_eq =>
    obtain ⟨u, hu, htells⟩ := calculated.tells text formula_eq
    rw [hu] at value_eq
    cases value_eq
    exact htells

/-- **The formula determines the value.** Two calculations with the same formula, of any kinds and
in any sessions, have come to the same decimal. -/
theorem value_eq_of_formula_eq {cs ds : List Command} {text : String} {v w : Decimal}
    (hv : (Session.initial.run cs).1.Calculated text v)
    (hw : (Session.initial.run ds).1.Calculated text w) : v = w :=
  Option.some.inj ((spells_of_calculated hv).unique (spells_of_calculated hw))

/-- A negated group, in which another group is added. -/
def negatedBrackets : List Command :=
  [.settings (.setTracing true), .beginBracket .absent,
    .scope none (.call (.openGroup (.unary .negate) (.int 2) .absent)),
    .scope none (.call (.openGroup (.binary .add) (.int 3) .absent)),
    .scope none (.call .close), .scope none (.call .close)]

/-- The same formula by a negation at the end, with a callable for the group. -/
def negatedCallables : List Command :=
  [.settings (.setTracing true), .beginChain (.int 2),
    .chain none (.join .add
      (.script (.plain (.begin (.int 3)) 0 false (.finish (.reachable 0)))) .absent),
    .chain none (.change .negate .absent)]

theorem value_eq_of_formula_eq_negated :
    (Session.initial.run negatedBrackets).1.Calculated "-(2 + (3))" (.ofInt (-5)) ∧
      (Session.initial.run negatedCallables).1.Calculated "-(2 + (3))" (.ofInt (-5)) ∧
      Decimal.ofInt (-5) = Decimal.ofInt (-5) := by
  have hbrackets :
      (Session.initial.run negatedBrackets).1.Calculated "-(2 + (3))" (.ofInt (-5)) := by
    have hchain : ∃ c ∈ (Session.initial.run negatedBrackets).1.brackets, c.enclosing = [] ∧
        c.exposed.value = some (.ofInt (-5)) ∧ c.formula? = some "-(2 + (3))" := by decide
    obtain ⟨c, hmem, hclosed, hvalue, hformula⟩ := hchain
    exact .brackets hmem hclosed hvalue hformula
  have hcallables :
      (Session.initial.run negatedCallables).1.Calculated "-(2 + (3))" (.ofInt (-5)) := by
    have hchain : ∃ c ∈ (Session.initial.run negatedCallables).1.chains,
        c.value = .finite (.ofInt (-5)) ∧ c.formula = some "-(2 + (3))" := by decide
    have hnone : ∀ c ∈ Session.initial.chains, c.Calculated := by simp [Session.initial]
    have hcalculates : ∀ p ∈ negatedCallables.zip (Session.initial.run negatedCallables).2,
        calculates p.1 p.2 = true := by decide
    have hcalc := calculated_run hnone hcalculates
    obtain ⟨c, hmem, hvalue, hformula⟩ := hchain
    exact .callables hmem (hcalc c hmem) hvalue hformula
  exact ⟨hbrackets, hcallables, value_eq_of_formula_eq hbrackets hcallables⟩

end Session

end ChainedDecimal
