import ChainedDecimal.Proofs.Spelled.Closure

/-!
# Going on after a fault

A callable may catch the fault of a deed and go on. It goes on from the value that the group had,
and in all but one case from the formula that it had, so that in the end the text still tells the
value. The exception is a seed that was left. The group has no value even so, and the next operator
writes a seed of its own behind the one that is there.
-/

namespace ChainedDecimal

namespace Closure

/-- **A deed that fails leaves its group as it was, unless it leaves a seed in its formula**, and a
callable that catches the fault goes on with groups that tell their values, where no seed is left.
The callable for the operand must not act on the group itself. -/
theorem Deed.kept_of_fault {d : Deed} {level : ℕ} {groups : List Group} {g : Group} {f : Fault}
    (hg : groups[level]? = some g) (hf : (d.perform level groups).outcome = .error f)
    (hothers : ∀ m ∈ d.inside level groups, ¬m.ActsOn (groups.length - level)) :
    (∃ g', (d.perform level groups).groups[level]? = some g' ∧ g'.value = g.value ∧
        (g'.formula? = g.formula? ↔ d.leavesSeed level groups = false)) ∧
      ∀ rest : Script, (d.before level true rest).answersGiven = true →
        (∀ x ∈ groups, x.Tells) →
        (∀ m ∈ (d.before level true rest).moments groups,
          m.deed.leavesSeed m.level m.groups = false) →
        ((d.before level true rest).run groups).Tells Group.Tells :=
  ⟨Deed.group_of_fault hg hf hothers, fun _ hgiven htells hseeds ↦
    Script.tells_run hgiven htells hseeds⟩

/-- The callable that begins its group with an integer. -/
def beginning (n : Int) : Script := .plain (.begin (.int n)) 0 false .idle

/-- A quotient by a group whose value is zero. -/
def quotientByZero : Deed := .nest .divide (beginning 0) (.int 2)

/-- The callable that goes on after that quotient and adds a group whose value is five. -/
def addingFive : Script := .nest .add (beginning 5) .absent 0 false .idle

/-- A traced group that was begun with ten. -/
def tracedTen : Group := ⟨some (.ofInt 10), some (.ofValue? (some (.ofInt 10)))⟩

theorem kept_quotientByZero :
    (quotientByZero.perform 0 [tracedTen]).outcome =
        .error (.divisionByZero (.finite (.ofInt 10)) .zero) ∧
      (∃ g', (quotientByZero.perform 0 [tracedTen]).groups[0]? = some g' ∧
        g'.value = some (.ofInt 10) ∧ g'.formula? = some "10") ∧
      ((quotientByZero.before 0 true addingFive).run [tracedTen]).groups.map
        (fun g ↦ (g.value, g.formula?)) = [(some (.ofInt 15), some "10 + (5)")] ∧
      ∀ g ∈ ((quotientByZero.before 0 true addingFive).run [tracedTen]).groups, g.Tells := by
  have hf : (quotientByZero.perform 0 [tracedTen]).outcome =
      .error (.divisionByZero (.finite (.ofInt 10)) .zero) := by decide
  have hothers : ∀ m ∈ quotientByZero.inside 0 [tracedTen], ¬m.ActsOn ([tracedTen].length - 0) := by
    decide
  have hseeds : ∀ m ∈ (quotientByZero.before 0 true addingFive).moments [tracedTen],
      m.deed.leavesSeed m.level m.groups = false := by decide
  have htells : ∀ x ∈ [tracedTen], x.Tells :=
    List.forall_mem_singleton.2 ⟨_, rfl, Spells.first (.ofInt 10)⟩
  obtain ⟨⟨g', hg', hvalue, hformula⟩, hrest⟩ := Deed.kept_of_fault rfl hf hothers
  exact ⟨hf, ⟨g', hg', hvalue, hformula.2 rfl⟩, by decide, (hrest addingFive rfl htells hseeds).1⟩

/-- On a group without a value the quotient leaves its seed, and that of the sum is written behind
it. -/
theorem not_kept_quotientByZero :
    (quotientByZero.perform 0 [.fresh true]).outcome =
        .error (.divisionByZero (.finite .one) .zero) ∧
      (∀ m ∈ quotientByZero.inside 0 [.fresh true], ¬m.ActsOn 1) ∧
      (Group.fresh true).formula? = some "" ∧
      (quotientByZero.perform 0 [.fresh true]).groups.map Group.formula? = [some "1"] ∧
      ((quotientByZero.before 0 true addingFive).run [.fresh true]).groups.map
        (fun g ↦ (g.value, g.formula?)) = [(some (.ofInt 5), some "10 + (5)")] ∧
      ¬Spells "10 + (5)" (some (.ofInt 5)) := by
  have hfifteen : Spells "10 + (5)" (some (.ofInt 15)) :=
    ⟨some (.ofInt 10), .group (.binary .add) (some (.ofInt 5)) .done .done, by decide, by decide⟩
  refine ⟨by decide, by decide, by decide, by decide, by decide, fun hfive ↦ ?_⟩
  have heq := hfifteen.unique hfive
  exact absurd heq (by decide)

end Closure

end ChainedDecimal
