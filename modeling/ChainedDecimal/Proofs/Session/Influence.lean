import ChainedDecimal.Proofs.Alike.Run

/-!
# What has no influence

What is administered in a session has no influence on its calculations: tracing may be switched at
any time, pools installed, asked and cleared, and the environment changed and read again. All states
and all faults stay the same, and results stay the same numbers.

Nor has it any influence how operands are written. If they are replaced by others that represent the
same numbers, then all values keep their numbers and all faults their kinds, unless an operation
meets a limit of the decimals.
-/

namespace ChainedDecimal

open Decimal (SameNumber)

namespace Bracket

/-- Where nothing may differ, the same is seen. -/
theorem View.Alike.eq {v u : View} (h : v.Alike .same u) : v = u := by
  have hvalue := optionRel_eq h.value fun _ _ hab ↦ hab
  obtain ⟨-, hpending, hscale, hparent, hchild, hdepth, hclosed⟩ := h
  rcases v with ⟨⟩
  rcases u with ⟨⟩
  simp only at hvalue hpending hscale hparent hchild hdepth hclosed
  subst hvalue hpending hscale hparent hchild hdepth hclosed
  rfl

end Bracket

namespace Session

variable {s t : Session} {cs ds : List Command}

/-! ## What is administered -/

/-- Two runs come to the same calculations. -/
structure SameCalculations (cs ds : List Command) : Prop where
  /-- The replies to the commands of calculations are the same one by one: the same values and
  notes, the same faults, and results that represent the same numbers. -/
  answers : List.Forall₂ (Reply.Alike .same) (Session.initial.answers cs)
    (Session.initial.answers ds)
  /-- Each scope is in the same state. -/
  scopes_eq : ∀ i,
    (Session.initial.run cs).1.scopeState? i = (Session.initial.run ds).1.scopeState? i
  /-- Each chain with callables has the same value. -/
  chains_eq : (Session.initial.run cs).1.chains.map Closure.Chain.value =
    (Session.initial.run ds).1.chains.map Closure.Chain.value
  /-- Each group that stands alone has the same value. -/
  groups_eq : (Session.initial.run cs).1.groups.map Closure.Group.value =
    (Session.initial.run ds).1.groups.map Closure.Group.value

namespace Alike

theorem scopeState?_eq (h : s.Alike .same t) (i : ℕ) : s.scopeState? i = t.scopeState? i := by
  refine optionRel_eq (h.scopeState? i) fun a b hab ↦ ?_
  have hview := hab.view.eq
  obtain ⟨hname, -, hparent, hchild⟩ := hab
  rcases a with ⟨⟩
  rcases b with ⟨⟩
  simp only at hview hname hparent hchild
  subst hview hname hparent hchild
  rfl

theorem chains_eq (h : s.Alike .same t) :
    s.chains.map Closure.Chain.value = t.chains.map Closure.Chain.value := by
  refine map_eq_of_forall₂ h.chains ?_
  rintro _ _ ⟨_, _, hvu, -, -⟩
  exact congrArg Numeral.finite hvu

theorem groups_eq (h : s.Alike .same t) :
    s.groups.map Closure.Group.value = t.groups.map Closure.Group.value :=
  map_eq_of_forall₂ h.groups fun _ _ hgh ↦ optionRel_eq hgh fun _ _ hab ↦ hab

end Alike

/-- A command that is no part of a calculation begins nothing. -/
theorem Command.fits_of_not_isCalculation {c : Command} (hc : c.isCalculation = false) :
    c.Fits := by
  cases c <;> trivial

theorem fits_of_filter_eq
    (hcalls : cs.filter Command.isCalculation = ds.filter Command.isCalculation)
    (hfits : ∀ c ∈ cs, c.Fits) : ∀ d ∈ ds, d.Fits := by
  intro d hd
  cases hcalc : d.isCalculation with
  | false => exact Command.fits_of_not_isCalculation hcalc
  | true =>
    have hmem : d ∈ cs.filter Command.isCalculation := hcalls ▸ List.mem_filter.2 ⟨hd, hcalc⟩
    exact hfits d (List.mem_filter.1 hmem).1

/-- **Settings never influence calculations.** Two runs with the same commands of calculations come
to the same calculations, whatever else is done before, between and after these. -/
theorem sameCalculations_of_filter_eq
    (hcalls : cs.filter Command.isCalculation = ds.filter Command.isCalculation)
    (hfits : ∀ c ∈ cs, c.Fits) (hfinite : ∀ c ∈ cs, c.IsFinite) : SameCalculations cs ds := by
  have halike : List.Forall₂ (Command.Alike .same) (cs.filter Command.isCalculation)
      (ds.filter Command.isCalculation) := by
    rw [← hcalls]
    refine List.forall₂_same.2 fun c hc ↦ ?_
    obtain ⟨hmem, hcalc⟩ := List.mem_filter.1 hc
    exact .refl hcalc (hfinite c hmem)
  have hruns := Alike.initial.run halike (.initial hfits fun _ _ ↦ trivial)
    (.initial (fits_of_filter_eq hcalls hfits) fun _ _ ↦ trivial)
  exact ⟨hruns.answers, hruns.session.scopeState?_eq, hruns.session.chains_eq,
    hruns.session.groups_eq⟩

/-- A third, calculated in brackets and read. -/
def thirdCommands : List Command :=
  [.beginBracket (.int 1), .scope none (.call (.binary .divide (.int 3) (.int 4))),
    .scope none .result]

/-- The same, with tracing and without a pool in the middle of it. -/
def administeredThird : List Command :=
  [.settings (.setTracing true), .beginBracket (.int 1), .settings (.install .nothing),
    .scope none (.call (.binary .divide (.int 3) (.int 4))), .settings .reset,
    .scope none .result, .settings .clearPool]

theorem sameCalculations_third :
    thirdCommands.filter Command.isCalculation = administeredThird.filter Command.isCalculation ∧
      (∀ c ∈ thirdCommands, c.Fits) ∧ (∀ c ∈ thirdCommands, c.IsFinite) ∧
      SameCalculations thirdCommands administeredThird := by
  have hcalls : thirdCommands.filter Command.isCalculation =
      administeredThird.filter Command.isCalculation := rfl
  have hfits : ∀ c ∈ thirdCommands, c.Fits := by decide
  have hfinite : ∀ c ∈ thirdCommands, c.IsFinite := by decide
  exact ⟨hcalls, hfits, hfinite, sameCalculations_of_filter_eq hcalls hfits hfinite⟩

/-! ## How operands are written -/

/-- Calculations do not tell representations of a number apart. -/
structure RespectsNumbers (cs ds : List Command) : Prop where
  /-- The replies to the commands of calculations are alike one by one: both have values that
  represent the same numbers, or both are faults of the same kind. -/
  answers : List.Forall₂ (Reply.Alike .numeric) (Session.initial.answers cs)
    (Session.initial.answers ds)
  /-- All values represent the same numbers in the end. -/
  session : (Session.initial.run cs).1.Alike .numeric (Session.initial.run ds).1
  /-- And a result that has passed through a pool, whatever that keeps, is as good an operand as one
  that has not. -/
  pooled : ∀ (p : Pool) {d : Decimal}, d.Fits → ∃ e q, p.get d = .ok (e, q) ∧
    Likeness.numeric.Operand (.decimal e) (.decimal d)

/-- **Equality of numbers is a congruence.** Two runs whose calculations are the same up to the
representation of their operands come to the same numbers and to the same kinds of faults, whatever
pools are installed, as long as no operation meets a limit. -/
theorem respectsNumbers_of_alike
    (hcalls : List.Forall₂ (Command.Alike .numeric) (cs.filter Command.isCalculation)
      (ds.filter Command.isCalculation))
    (hcs : ∀ c ∈ cs, c.Fits) (hds : ∀ d ∈ ds, d.Fits)
    (hwithin : ∀ o ∈ Session.initial.runOperations cs, o.Within)
    (hwithin' : ∀ o ∈ Session.initial.runOperations ds, o.Within) : RespectsNumbers cs ds := by
  have hruns := Alike.initial.run hcalls (.initial hcs hwithin) (.initial hds hwithin')
  refine ⟨hruns.answers, hruns.session, fun p d hd ↦ ?_⟩
  obtain ⟨e, q, hget⟩ := Pool.exists_get hd p
  exact ⟨e, q, hget, .ok (.some (Pool.sameNumber_of_get hd hget))⟩

/-- Minus half of three, by a group that is subtracted from zero. -/
def halfCommands : List Command :=
  [.beginBracket (.int 0), .scope none (.call (.openGroup (.binary .subtract) (.int 3) .absent)),
    .scope none (.call (.binary .divide (.int 2) (.int 1))), .scope none (.call .close),
    .scope none .result]

/-- The same with trailing zeros, a negative zero, and another pool. -/
def paddedHalf : List Command :=
  [.beginBracket (.decimal ⟨true, 0, -2⟩), .settings (.install .nothing),
    .scope none (.call (.openGroup (.binary .subtract) (.decimal ⟨false, 300, -2⟩) .absent)),
    .scope none (.call (.binary .divide (.decimal ⟨false, 20, -1⟩) (.int 1))),
    .scope none (.call .close), .scope none .result]

theorem alike_half : List.Forall₂ (Command.Alike .numeric)
    (halfCommands.filter Command.isCalculation) (paddedHalf.filter Command.isCalculation) := by
  have hzero : Likeness.numeric.Operand (.int 0) (.decimal ⟨true, 0, -2⟩) :=
    .ok (.some (by norm_num [Likeness.numeric, SameNumber, Decimal.ofInt, Decimal.toRat]))
  have hthree : Likeness.numeric.Operand (.int 3) (.decimal ⟨false, 300, -2⟩) :=
    .ok (.some (by norm_num [Likeness.numeric, SameNumber, Decimal.ofInt, Decimal.toRat]))
  have htwo : Likeness.numeric.Operand (.int 2) (.decimal ⟨false, 20, -1⟩) :=
    .ok (.some (by norm_num [Likeness.numeric, SameNumber, Decimal.ofInt, Decimal.toRat]))
  exact .cons (.beginBracket hzero) <| .cons (.scope (.call (.openGroup hthree))) <|
    .cons (.scope (.call (.binary htwo))) <| .cons (.scope (.call .close)) <|
    .cons (.scope .result) .nil

theorem respectsNumbers_half :
    (∀ c ∈ halfCommands, c.Fits) ∧ (∀ c ∈ paddedHalf, c.Fits) ∧
      (∀ o ∈ Session.initial.runOperations halfCommands, o.Within) ∧
      (∀ o ∈ Session.initial.runOperations paddedHalf, o.Within) ∧
      RespectsNumbers halfCommands paddedHalf := by
  have hcs : ∀ c ∈ halfCommands, c.Fits := by decide
  have hds : ∀ c ∈ paddedHalf, c.Fits := by decide
  have hwithin : ∀ o ∈ Session.initial.runOperations halfCommands, o.Within := by decide
  have hwithin' : ∀ o ∈ Session.initial.runOperations paddedHalf, o.Within := by decide
  exact ⟨hcs, hds, hwithin, hwithin', respectsNumbers_of_alike alike_half hcs hds hwithin hwithin'⟩

end Session

end ChainedDecimal
