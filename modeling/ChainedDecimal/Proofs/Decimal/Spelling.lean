import ChainedDecimal.Decimal.Reading

/-!
# Where a decimal ends in a text

The text of a decimal is an optional minus, digits with a point among them, and an optional exponent
with its sign. Each of these parts is known by its first character and ends where no more digits
follow. So a decimal is found at the beginning of a text without looking further than one character
behind it: that must be no digit, no point and no `E`. A minus may follow, for a minus belongs to a
decimal only at its beginning or behind the `E`.

In particular different representations have different texts.
-/

namespace ChainedDecimal

/-! ## Digits -/

/-- The text does not begin with a digit. -/
def StopsDigits (r : List Char) : Prop := ∀ c ∈ r.head?, c.isDigit = false

/-- Digits end where something else begins. -/
theorem digits_append_inj {ds es r s : List Char} (hds : ∀ c ∈ ds, c.isDigit = true)
    (hes : ∀ c ∈ es, c.isDigit = true) (hr : StopsDigits r) (hs : StopsDigits s)
    (h : ds ++ r = es ++ s) : ds = es ∧ r = s := by
  have htake : ∀ {as q : List Char}, (∀ c ∈ as, c.isDigit = true) → StopsDigits q →
      (as ++ q).takeWhile Char.isDigit = as := by
    intro as q has hq
    have hnil : q.takeWhile Char.isDigit = [] := by
      cases q with
      | nil => rfl
      | cons c q => rw [List.takeWhile_cons, hq c rfl, if_neg (by simp)]
    rw [List.takeWhile_append_of_pos has, hnil, List.append_nil]
  have heq : ds = es := by rw [← htake hds hr, h, htake hes hs]
  subst heq
  exact ⟨rfl, List.append_cancel_left h⟩

theorem isDigit_of_mem_digitChars {n : Nat} {c : Char} (h : c ∈ digitChars n) :
    c.isDigit = true := Nat.isDigit_of_mem_toDigits (by decide) (by decide) h

@[simp] theorem natOfDigits_digitChars (n : Nat) : natOfDigits (digitChars n) = n :=
  Nat.ofDigitChars_ten_toDigits

/-- Zeros in front do not count. -/
theorem natOfDigits_replicate_append (k : Nat) (ds : List Char) :
    natOfDigits (List.replicate k '0' ++ ds) = natOfDigits ds := by
  rw [natOfDigits, Nat.ofDigitChars_append, Nat.ofDigitChars_replicate_zero]
  simp [natOfDigits]

namespace Decimal

/-! ## The parts of a text -/

/-- The digits behind the point, with the point if there are some. -/
def fractionChars : List Char → List Char
  | [] => []
  | ds => '.' :: ds

/-- The exponent behind its `E`, if there is one. -/
def exponentPart : Option Int → List Char
  | none => []
  | some e => 'E' :: exponentChars e

/-- The text of a decimal without its sign is made of these parts. -/
structure Parts (d : Decimal) (whole fraction : List Char) (exponent : Option Int) : Prop where
  /-- The text. -/
  chars_eq : d.unsignedChars = whole ++ (fractionChars fraction ++ exponentPart exponent)
  /-- There is a digit before the point. -/
  whole_ne_nil : whole ≠ []
  /-- All are digits. -/
  isDigit : ∀ c ∈ whole ++ fraction, c.isDigit = true
  /-- The digits of the coefficient, perhaps with zeros in front. -/
  coeff_eq : natOfDigits (whole ++ fraction) = d.coeff
  /-- The exponent of the last digit. -/
  exp_eq : exponent.getD 0 - fraction.length = d.exp

/-- A point among digits, or in front of them. -/
theorem exists_pointed {ds : List Char} (hds : ∀ c ∈ ds, c.isDigit = true) (hne : ds ≠ [])
    (places : Nat) :
    ∃ whole fraction, pointed ds places = whole ++ fractionChars fraction ∧ whole ≠ [] ∧
      (∀ c ∈ whole ++ fraction, c.isDigit = true) ∧
      natOfDigits (whole ++ fraction) = natOfDigits ds ∧ fraction.length = places := by
  unfold pointed
  split
  · exact ⟨ds, [], by simp [fractionChars], hne, by simpa using hds, by simp, by simp [*]⟩
  · split
    · rename_i hpos hlt
      have hlen : (ds.drop (ds.length - places)).length = places := by
        rw [List.length_drop]
        omega
      refine ⟨ds.take (ds.length - places), ds.drop (ds.length - places), ?_, ?_, ?_, ?_, hlen⟩
      · cases hdrop : ds.drop (ds.length - places) with
        | nil =>
          rw [hdrop] at hlen
          exact absurd hlen.symm hpos
        | cons c cs => rfl
      · rw [Ne, List.take_eq_nil_iff, not_or]
        exact ⟨by omega, hne⟩
      · rwa [List.take_append_drop]
      · rw [List.take_append_drop]
    · refine ⟨['0'], List.replicate (places - ds.length) '0' ++ ds, ?_, by simp, ?_, ?_, ?_⟩
      · cases hzeros : List.replicate (places - ds.length) '0' ++ ds with
        | nil => exact absurd (List.append_eq_nil_iff.1 hzeros).2 hne
        | cons c cs => rfl
      · intro c hc
        simp only [List.singleton_append, List.mem_cons, List.mem_append,
          List.mem_replicate] at hc
        rcases hc with rfl | ⟨-, rfl⟩ | hc
        · rfl
        · rfl
        · exact hds c hc
      · rw [← List.append_assoc, ← List.replicate_one,
          List.replicate_append_replicate]
        exact natOfDigits_replicate_append _ ds
      · rw [List.length_append, List.length_replicate]
        omega

/-- Every text has these parts. -/
theorem exists_parts (d : Decimal) :
    ∃ whole fraction exponent, d.Parts whole fraction exponent := by
  have hds : ∀ c ∈ digitChars d.coeff, c.isDigit = true := fun c ↦ isDigit_of_mem_digitChars
  have hne : digitChars d.coeff ≠ [] := Nat.toDigits_ne_nil
  cases hplain : d.isPlain with
  | true =>
    obtain ⟨whole, fraction, hchars, hwhole, hdigits, hcoeff, hplaces⟩ :=
      exists_pointed hds hne d.exp.natAbs
    have hexp : d.exp ≤ 0 := by
      rw [isPlain, Bool.and_eq_true, decide_eq_true_eq] at hplain
      exact hplain.1
    refine ⟨whole, fraction, none, ?_, hwhole, hdigits, ?_, ?_⟩
    · rw [unsignedChars, if_pos hplain, hchars, exponentPart, List.append_nil]
    · rw [hcoeff, natOfDigits_digitChars]
    · rw [hplaces, Option.getD_none]
      omega
  | false =>
    obtain ⟨whole, fraction, hchars, hwhole, hdigits, hcoeff, hplaces⟩ :=
      exists_pointed hds hne ((digitChars d.coeff).length - 1)
    have hpos : 0 < (digitChars d.coeff).length := List.length_pos_iff.2 hne
    refine ⟨whole, fraction, some d.adjusted, ?_, hwhole, hdigits, ?_, ?_⟩
    · rw [unsignedChars, hplain, if_neg (by simp), scientific, hchars, exponentPart,
        List.append_assoc]
    · rw [hcoeff, natOfDigits_digitChars]
    · rw [hplaces, Option.getD_some, adjusted, digits]
      show d.exp + ((digitChars d.coeff).length : Int) - 1 - _ = d.exp
      omega

/-! ## Finding a decimal at the beginning of a text -/

/-- A decimal cannot go on with this text. -/
def EndsBefore (r : List Char) : Prop :=
  ∀ c ∈ r.head?, c.isDigit = false ∧ c ≠ '.' ∧ c ≠ 'E'

theorem EndsBefore.stopsDigits {r : List Char} (h : EndsBefore r) : StopsDigits r :=
  fun c hc ↦ (h c hc).1

theorem exponentChars_append_inj {e f : Int} {r s : List Char} (hr : StopsDigits r)
    (hs : StopsDigits s) (h : exponentChars e ++ r = exponentChars f ++ s) : e = f ∧ r = s := by
  rw [exponentChars, exponentChars, List.cons_append, List.cons_append, List.cons.injEq] at h
  obtain ⟨hsign, h⟩ := h
  obtain ⟨hdigits, hrest⟩ := digits_append_inj (fun c ↦ isDigit_of_mem_digitChars)
    (fun c ↦ isDigit_of_mem_digitChars) hr hs h
  have habs : e.natAbs = f.natAbs := by
    rw [← natOfDigits_digitChars e.natAbs, hdigits, natOfDigits_digitChars]
  refine ⟨?_, hrest⟩
  -- The signs are written in any case, also in front of a zero.
  by_cases he : e < 0
  · by_cases hf : f < 0
    · omega
    · simp [he, hf] at hsign
  · by_cases hf : f < 0
    · simp [he, hf] at hsign
    · omega

theorem exponentPart_append_inj {e f : Option Int} {r s : List Char} (hr : EndsBefore r)
    (hs : EndsBefore s) (h : exponentPart e ++ r = exponentPart f ++ s) : e = f ∧ r = s := by
  match e, f with
  | none, none => exact ⟨rfl, h⟩
  | none, some f =>
    rw [exponentPart, List.nil_append] at h
    exact absurd rfl (hr 'E' (by rw [h]; rfl)).2.2
  | some e, none =>
    rw [exponentPart, exponentPart, List.nil_append] at h
    exact absurd rfl (hs 'E' (by rw [← h]; rfl)).2.2
  | some e, some f =>
    obtain ⟨-, h⟩ := List.cons.inj h
    obtain ⟨rfl, hrest⟩ := exponentChars_append_inj hr.stopsDigits hs.stopsDigits h
    exact ⟨rfl, hrest⟩

theorem fractionChars_append_inj {ds es r s : List Char} (hds : ∀ c ∈ ds, c.isDigit = true)
    (hes : ∀ c ∈ es, c.isDigit = true) (hr : ∀ c ∈ r.head?, c.isDigit = false ∧ c ≠ '.')
    (hs : ∀ c ∈ s.head?, c.isDigit = false ∧ c ≠ '.')
    (h : fractionChars ds ++ r = fractionChars es ++ s) : ds = es ∧ r = s := by
  match ds, es with
  | [], [] => exact ⟨rfl, h⟩
  | [], c :: cs =>
    simp only [fractionChars, List.nil_append] at h
    exact absurd rfl (hr '.' (by rw [h]; rfl)).2
  | c :: cs, [] =>
    simp only [fractionChars, List.nil_append] at h
    exact absurd rfl (hs '.' (by rw [← h]; rfl)).2
  | c :: cs, c' :: cs' =>
    obtain ⟨-, h⟩ := List.cons.inj h
    exact digits_append_inj hds hes (fun x hx ↦ (hr x hx).1) (fun x hx ↦ (hs x hx).1) h

/-- Behind the fraction neither digits nor a point follow. -/
theorem EndsBefore.exponentPart_append {r : List Char} (h : EndsBefore r) (e : Option Int) :
    ∀ c ∈ (exponentPart e ++ r).head?, c.isDigit = false ∧ c ≠ '.' := by
  cases e with
  | none => exact fun c hc ↦ ⟨(h c hc).1, (h c hc).2.1⟩
  | some e =>
    intro c hc
    cases hc
    decide

theorem stopsDigits_fractionChars_append (ds : List Char) {r : List Char} (h : StopsDigits r) :
    StopsDigits (fractionChars ds ++ r) := by
  cases ds with
  | nil => exact h
  | cons c cs =>
    intro x hx
    cases hx
    decide

/-- Without its sign a decimal is found at the beginning of a text. -/
theorem unsignedChars_append_inj {x y : Decimal} {r s : List Char} (hr : EndsBefore r)
    (hs : EndsBefore s) (h : x.unsignedChars ++ r = y.unsignedChars ++ s) :
    x.coeff = y.coeff ∧ x.exp = y.exp ∧ r = s := by
  obtain ⟨whole, fraction, e, hx⟩ := x.exists_parts
  obtain ⟨whole', fraction', e', hy⟩ := y.exists_parts
  have hdx := List.forall_mem_append.1 hx.isDigit
  have hdy := List.forall_mem_append.1 hy.isDigit
  have hre := hr.exponentPart_append e
  have hse := hs.exponentPart_append e'
  rw [hx.chars_eq, hy.chars_eq, List.append_assoc, List.append_assoc, List.append_assoc,
    List.append_assoc] at h
  obtain ⟨rfl, hbehind⟩ := digits_append_inj hdx.1 hdy.1
    (stopsDigits_fractionChars_append fraction fun c hc ↦ (hre c hc).1)
    (stopsDigits_fractionChars_append fraction' fun c hc ↦ (hse c hc).1) h
  obtain ⟨rfl, htail⟩ := fractionChars_append_inj hdx.2 hdy.2 hre hse hbehind
  obtain ⟨rfl, hrest⟩ := exponentPart_append_inj hr hs htail
  exact ⟨hx.coeff_eq.symm.trans hy.coeff_eq, hx.exp_eq.symm.trans hy.exp_eq, hrest⟩

/-- A digit comes first. -/
theorem exists_unsignedChars_eq (d : Decimal) :
    ∃ c cs, c.isDigit = true ∧ d.unsignedChars = c :: cs := by
  obtain ⟨whole, fraction, e, h⟩ := d.exists_parts
  match whole with
  | [] => exact absurd rfl h.whole_ne_nil
  | c :: cs => exact ⟨c, _, h.isDigit c List.mem_cons_self, h.chars_eq⟩

/-- With the sign a digit comes first or second. -/
theorem exists_chars_eq (d : Decimal) :
    ∃ c cs, c.isDigit = true ∧ (d.chars = c :: cs ∨ d.chars = '-' :: c :: cs) := by
  obtain ⟨c, cs, hc, hcs⟩ := d.exists_unsignedChars_eq
  refine ⟨c, cs, hc, ?_⟩
  rw [chars, hcs]
  cases d.negative with
  | false => exact Or.inl rfl
  | true => exact Or.inr rfl

/-- **A decimal is found at the beginning of a text**, and so is what stands behind it. -/
theorem chars_append_inj {x y : Decimal} {r s : List Char} (hr : EndsBefore r) (hs : EndsBefore s)
    (h : x.chars ++ r = y.chars ++ s) : x = y ∧ r = s := by
  have hminus : ∀ (d : Decimal) (p q : List Char), d.unsignedChars ++ p ≠ '-' :: q := by
    intro d p q heq
    obtain ⟨c, cs, hc, hcs⟩ := d.exists_unsignedChars_eq
    rw [hcs] at heq
    cases heq
    cases hc
  rcases x with ⟨sx, cx, ex⟩
  rcases y with ⟨sy, cy, ey⟩
  match sx, sy with
  | false, false =>
    obtain ⟨rfl, rfl, hrest⟩ := unsignedChars_append_inj hr hs h
    exact ⟨rfl, hrest⟩
  | true, true =>
    obtain ⟨-, h⟩ := List.cons.inj h
    obtain ⟨rfl, rfl, hrest⟩ := unsignedChars_append_inj hr hs h
    exact ⟨rfl, hrest⟩
  | false, true => exact absurd h (hminus _ _ _)
  | true, false => exact absurd h.symm (hminus _ _ _)

/-- Different representations have different texts. -/
theorem text_injective : Function.Injective Decimal.text := by
  intro x y h
  have hnil : EndsBefore [] := fun c hc ↦ by cases hc
  have hchars : x.chars ++ [] = y.chars ++ [] := by
    rw [String.ofList_inj.1 h]
  exact (chars_append_inj hnil hnil hchars).1

theorem ofInt_injective : Function.Injective Decimal.ofInt := by
  intro m n h
  obtain ⟨hsign, habs, -⟩ := Decimal.mk.inj h
  rw [decide_eq_decide] at hsign
  omega

end Decimal

end ChainedDecimal
