import ChainedDecimal.Proofs.Session.Beginnings
import ChainedDecimal.Proofs.Session.Effects

/-!
# Which results are reported

A result is reported if the flag for tracing was on when its chain was begun, and then once. The
report shows the formula of the chain and the value before it passes through the pool. Whether the
flag has been switched since then makes no difference, nor does what the pool answers. What fails is
not reported, and neither is any calculation before its result is read.
-/

namespace ChainedDecimal

namespace Session

variable {s : Session} {cs : List Command} {flag : Bool} {v : Decimal} {command : Command}

/-- A value was read as a result: it passed through the pool, and was reported if the flag was on.
-/
structure ReadAs (s : Session) (engine : String) (flag : Bool) (formula : Option String)
    (v : Decimal) (r : Reply) : Prop where
  /-- The answer is that of the pool. -/
  answer_eq : ∃ w settings, s.settings.pooledNumeral (.finite v) = .ok (w, settings) ∧
    r.outcome = .ok (.result w settings.installedPool.size?)
  /-- If the flag was on there is a formula, and one event, which shows the value itself. -/
  reported : flag = true → ∃ text, formula = some text ∧
    r.events = [.formulaEvaluated engine (text ++ " = " ++ v.text) v.text]
  /-- If the flag was off there is neither. -/
  unreported : flag = false → formula = none ∧ r.events = []

theorem readAs_read {engine : String} {formula : Option String} {status : Status} {o : Outcome}
    (hflag : formula.isSome = flag)
    (h : (s.read engine formula (.finite v) status).2.outcome = .ok o) :
    s.ReadAs engine flag formula v (s.read engine formula (.finite v) status).2 := by
  constructor
  · rw [read, finish] at h ⊢
    cases hpooled : s.settings.pooledNumeral (.finite v) with
    | error f =>
      rw [hpooled] at h
      cases h
    | ok p => exact ⟨p.1, p.2, rfl, rfl⟩
  · intro hon
    obtain ⟨text, rfl⟩ := Option.isSome_iff_exists.1 (hflag.trans hon)
    refine ⟨text, rfl, ?_⟩
    rw [events_read]
    rfl
  · intro hoff
    have hnone : formula = none := by
      rw [← Option.isNone_iff_eq_none, ← Option.not_isSome, hflag, hoff]
      rfl
    refine ⟨hnone, ?_⟩
    rw [events_read, hnone]
    rfl

theorem events_read_of_fits {engine : String} {formula : Option String} {status : Status}
    {f : Fault} (hfits : v.Fits)
    (h : (s.read engine formula (.finite v) status).2.outcome = .error f) :
    (s.read engine formula (.finite v) status).2.events = [] := by
  obtain ⟨p, hp⟩ := finish_of_fits (s := s) hfits
  rw [read, hp] at h
  cases h

/-! ## Any session -/

/-- Results are reported as the flag was when their chains were begun, and nothing else is. -/
structure ReportsAsBegun (cs : List Command) : Prop where
  /-- Every bracketed chain was begun. -/
  bracket_begun : ∀ {k c}, (initial.run cs).1.brackets[k]? = some c →
    ∃ flag, BracketBegun cs k flag
  /-- So was every chain with callables, if none is put together from a value and a formula. -/
  chain_begun : (∀ v formula, .newChain v formula ∉ cs) → ∀ {i c},
    (initial.run cs).1.chains[i]? = some c → ∃ flag, ChainBegun cs i flag
  /-- A result of a bracketed chain is reported if the chain was begun with the flag on. -/
  bracket : ∀ {k flag on i id o}, BracketBegun cs k flag →
    (initial.run cs).1.scopePlace? on = some i → (initial.run cs).1.scopes[i]? = some (k, id) →
    ((initial.run cs).1.step (.scope on .result)).2.outcome = .ok o →
      ∃ c v, (initial.run cs).1.brackets[k]? = some c ∧ c.result id = .ok v ∧
        (initial.run cs).1.ReadAs bracketEngine flag c.formula? v
          ((initial.run cs).1.step (.scope on .result)).2
  /-- A result of a chain with callables is reported if the chain that it goes back to was. -/
  chain : ∀ {i flag on o}, ChainBegun cs i flag → (initial.run cs).1.chainPlace? on = some i →
    ((initial.run cs).1.step (.chain on .result)).2.outcome = .ok o →
      ∃ c v, (initial.run cs).1.chains[i]? = some c ∧ c.value = .finite v ∧
        (initial.run cs).1.ReadAs closureEngine flag c.formula v
          ((initial.run cs).1.step (.chain on .result)).2
  /-- A result that cannot be read is not reported. -/
  bracket_failed : (∀ c ∈ cs, c.Fits) → ∀ {on f},
    ((initial.run cs).1.step (.scope on .result)).2.outcome = .error f →
      ((initial.run cs).1.step (.scope on .result)).2.events = []
  chain_failed : (∀ c ∈ cs, c.Fits) → ∀ {on f},
    (∀ i, (initial.run cs).1.chainPlace? on = some i → ∃ flag, ChainBegun cs i flag) →
    ((initial.run cs).1.step (.chain on .result)).2.outcome = .error f →
      ((initial.run cs).1.step (.chain on .result)).2.events = []
  /-- Nothing else that belongs to a calculation is reported at all. -/
  quiet : ∀ {c : Command}, c.isCalculation = true → ¬c.Evaluates →
    ((initial.run cs).1.step c).2.events = []
  /-- No other command reports an evaluation. -/
  source : ∀ {c : Command} {engine formula result}, .formulaEvaluated engine formula result ∈
    ((initial.run cs).1.step c).2.events → c.Evaluates

/-- **Which results are reported**, after any commands. -/
theorem reportsAsBegun (cs : List Command) : ReportsAsBegun cs := by
  have hnumbered := Numbered.initial.run cs
  constructor
  · exact fun hc ↦ exists_bracketBegun (List.getElem?_eq_some_iff.1 hc).1
  · exact fun hnone _ _ hc ↦ exists_chainBegun hnone (List.getElem?_eq_some_iff.1 hc).1
  · intro k flag on i id o hbegun hon hi hok
    obtain ⟨c, hc, hflag⟩ := hbegun.hasTraced
    rw [step_scope_of_get hon hi hc, askScope] at hok ⊢
    cases hresult : c.result id with
    | error f =>
      rw [hresult] at hok
      cases hok
    | ok v =>
      rw [hresult] at hok
      have hformula : c.formula?.isSome = flag := Option.isSome_map.trans hflag
      exact ⟨c, v, hc, hresult, readAs_read hformula hok⟩
  · intro i flag on o hbegun hplace hok
    obtain ⟨c, v, hc, hv, -, hflag⟩ := hbegun.exists_chain
    have hget : (initial.run cs).1.chain? on = some c := by
      rw [chain?, hplace]
      exact hc
    rw [step, onChain_of_some hget, askChain, hv] at hok ⊢
    exact ⟨c, v, hc, hv, readAs_read hflag hok⟩
  · intro hfits on f herr
    have hbrackets : (initial.run cs).1.BracketsFit :=
      Numbered.initial.bracketsFit_run (by simp [BracketsFit, Session.initial]) hfits
    have hfail : failedOnBrackets (.scope on .result)
        ((initial.run cs).1.step (.scope on .result)).2 = true :=
      failedOnBrackets_iff.2 ⟨rfl, f, herr⟩
    exact (hnumbered.step_of_failed hfail).2 hbrackets
  · intro hfits on f hbegun herr
    rw [step] at herr ⊢
    cases hget : (initial.run cs).1.chain? on with
    | none =>
      rw [onChain_of_none hget]
      rfl
    | some c =>
      obtain ⟨i, hplace, hi⟩ := Option.bind_eq_some_iff.1 hget
      obtain ⟨flag, hchain⟩ := hbegun i hplace
      obtain ⟨d, v, hd, hv, hvalue, -⟩ := hchain.exists_chain
      rw [hi, Option.some.injEq] at hd
      subst hd
      rw [onChain_of_some hget, askChain, hv] at herr ⊢
      exact events_read_of_fits (hvalue hfits) herr
  · exact events_step_of_isCalculation
  · exact evaluates_of_mem

/-- The flag was on when the chain was begun, and is off again when the result is read. -/
example : ((Session.initial.run [.settings (.setTracing true), .beginBracket (.int 0),
    .settings (.setTracing false)]).1.step (.scope none .result)).2.events =
      [.formulaEvaluated "bracket" "0 = 0" "0"] := by
  decide

end Session

end ChainedDecimal
