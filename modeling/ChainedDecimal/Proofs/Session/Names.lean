import ChainedDecimal.Session.State

/-!
# Names

The name of an object tells its place: different places have different names, and looking a name up
gives the place that it was made for.
-/

namespace ChainedDecimal

/-- The text of a natural number is its digits, with nothing around them. -/
theorem intText_natCast (n : Nat) : intText n = String.ofList (Nat.toDigits 10 n) := by
  have hdigits := digitCount_pos n
  have hplaces : Decimal.deepestPlain ≤ (Decimal.ofInt n).adjusted := by
    show (-6 : Int) ≤ 0 + (digitCount n : Int) - 1
    omega
  have hplain : (Decimal.ofInt n).isPlain = true := by
    rw [Decimal.isPlain, decide_eq_true hplaces, Bool.and_true]
    rfl
  have hsign : (Decimal.ofInt n).negative = false := by simp [Decimal.ofInt]
  rw [intText, Decimal.text, Decimal.chars, hsign, Decimal.unsignedChars, if_pos hplain]
  rfl

theorem intText_natCast_injective : Function.Injective fun n : Nat ↦ intText n := by
  intro m n h
  have hdigits : Nat.toDigits 10 m = Nat.toDigits 10 n := by
    simpa only [intText_natCast, String.ofList_inj] using h
  have hvalue := congrArg (fun ds ↦ Nat.ofDigitChars 10 ds 0) hdigits
  simpa only [Nat.ofDigitChars_ten_toDigits] using hvalue

namespace Session

theorem nameOf_injective (letter : String) : Function.Injective (nameOf letter) := by
  intro i j h
  have hlists := congrArg String.toList h
  simp only [nameOf, String.toList_append] at hlists
  have htext := String.toList_inj.1 (List.append_cancel_left hlists)
  exact intText_natCast_injective htext

/-- A name is looked up to the place that it was made for. -/
theorem placeOf?_nameOf (letter : String) {count i : Nat} (h : i < count) :
    placeOf? letter count (nameOf letter i) = some i := by
  rw [placeOf?, List.find?_range_eq_some]
  refine ⟨by simp, List.mem_range.2 h, fun j hj ↦ ?_⟩
  simpa [(nameOf_injective letter).eq_iff] using Nat.ne_of_lt hj

@[simp] theorem scopePlace?_scopeName {s : Session} {i : Nat} (h : i < s.scopes.length) :
    s.scopePlace? (some (scopeName i)) = some i := placeOf?_nameOf "n" h

end Session

end ChainedDecimal
