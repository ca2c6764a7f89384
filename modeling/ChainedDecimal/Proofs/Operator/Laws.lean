import ChainedDecimal.Proofs.Operator.Exact

/-!
# The laws of exact arithmetic

Sums, differences, products, opposites and absolute values are those of the rational numbers, as far
as they can be written within the limits. So the laws of the rational numbers hold of them. Addition
and multiplication are commutative and associative even as representations, that is with the
exponent and with the sign of a zero. Distribution, and taking away what was added, give the same
number but in general another representation.

## Representations

A representation is told by its number, the place of its last digit, and its sign if it is a zero.
The place of a sum is the lower one of its operands', that of a product is the sum of theirs, and
both are commutative and associative; so only the signs of zeros need a look of their own. A sum
that is zero is negative if all of its operands are, in whatever order they are added, for they are
all zeros then.

## Results that can be written

What a result needs of the limits depends on its number and on the place of its last digit, and not
on its sign. `WritableAt` says so without naming an operation.
-/

namespace ChainedDecimal

namespace Decimal

variable {a b c d : Decimal}

/-! ## Representations and their numbers -/

theorem SameNumber.coeff_eq (h : SameNumber a b) (hexp : a.exp = b.exp) : a.coeff = b.coeff := by
  have habs : (a.coeff : ℚ) * (10 : ℚ) ^ a.exp = b.coeff * (10 : ℚ) ^ b.exp := by
    rw [← abs_toRat, ← abs_toRat, h]
  rw [hexp, mul_left_inj' (pow_exp_pos b.exp).ne'] at habs
  exact_mod_cast habs

/-- A representation is told by its number, the place of its last digit, and its sign if it is a
zero. -/
theorem SameNumber.eq_of_exp_eq (h : SameNumber a b) (hexp : a.exp = b.exp)
    (hzeros : a.isZero = true → a.negative = b.negative) : a = b := by
  have hcoeff := h.coeff_eq hexp
  have hsign : a.negative = b.negative := by
    cases hzero : a.isZero with
    | true => exact hzeros hzero
    | false => exact h.negative_eq hzero
  obtain ⟨_, _, _⟩ := a
  obtain ⟨_, _, _⟩ := b
  cases hsign
  cases hcoeff
  cases hexp
  rfl

/-- The number can be written within the limits with its last digit at this place. -/
def WritableAt (x : ℚ) (e : ℤ) : Prop := ∃ d : Decimal, d.toRat = x ∧ d.exp = e ∧ d.Fits

/-- Whether a decimal fits does not depend on its sign. -/
theorem fits_iff_writableAt : d.Fits ↔ WritableAt d.toRat d.exp := by
  constructor
  · intro h
    exact ⟨d, rfl, rfl, h⟩
  · rintro ⟨e, hnumber, hexp, hfits⟩
    have hcoeff : e.coeff = d.coeff := SameNumber.coeff_eq hnumber hexp
    unfold Fits adjusted digits at hfits ⊢
    rwa [← hcoeff, ← hexp]

/-- The outcome is a decimal with this number, whose last digit stands at this place. -/
def Gives (outcome : Except Fault Decimal) (x : ℚ) (e : ℤ) : Prop :=
  ∃ w : Decimal, outcome = .ok w ∧ w.toRat = x ∧ w.exp = e

theorem gives_settle {x : ℚ} {e : ℤ} (hnumber : d.toRat = x) (hexp : d.exp = e)
    (h : WritableAt x e) : Gives d.settle x e := by
  subst hnumber hexp
  exact ⟨d, settle_of_fits (fits_iff_writableAt.2 h), rfl, rfl⟩

/-! ## Sums -/

theorem exactSum_comm (a b : Decimal) : exactSum a b = exactSum b a := by
  simp only [exactSum, Int.min_comm a.exp b.exp, Int.add_comm (a.signedAt _) (b.signedAt _),
    Bool.and_comm a.negative b.negative]

theorem exp_exactSum (a b : Decimal) : (exactSum a b).exp = min a.exp b.exp := rfl

/-- A sum that is zero is negative only if both operands are. -/
theorem negative_exactSum_of_isZero (h : (exactSum a b).isZero = true) :
    (exactSum a b).negative = (a.negative && b.negative) := by
  have hzero : a.signedAt (min a.exp b.exp) + b.signedAt (min a.exp b.exp) = 0 := by
    simpa [exactSum, isZero] using h
  simp only [exactSum, hzero, if_pos]

theorem toRat_nonpos_of_negative (h : d.negative = true) : d.toRat ≤ 0 := by
  rw [← not_lt]
  intro hpos
  have habs := abs_toRat d
  rw [abs_of_pos hpos, toRat, if_pos h] at habs
  rw [toRat, if_pos h] at hpos
  linarith

/-- Of three operands whose sum is zero, whichever two are added first. -/
theorem negative_exactSum_and (h : a.toRat + b.toRat + c.toRat = 0) :
    ((exactSum a b).negative && c.negative) = (a.negative && b.negative && c.negative) := by
  cases hc : c.negative with
  | false => rw [Bool.and_false, Bool.and_false]
  | true =>
    rw [Bool.and_true, Bool.and_true]
    have hcle := toRat_nonpos_of_negative hc
    cases hzero : (exactSum a b).isZero with
    | true => exact negative_exactSum_of_isZero hzero
    | false =>
      -- The first sum is above zero, so neither it is negative nor both of its operands are.
      have hpos : ¬a.toRat + b.toRat ≤ 0 := by
        intro hle
        have hsum : (exactSum a b).toRat = 0 := by
          rw [toRat_exactSum]
          linarith
        rw [toRat_eq_zero_iff, hzero] at hsum
        cases hsum
      have hleft : (exactSum a b).negative = false := by
        rw [Bool.eq_false_iff]
        intro hneg
        exact hpos (toRat_exactSum a b ▸ toRat_nonpos_of_negative hneg)
      have hright : (a.negative && b.negative) = false := by
        rw [Bool.eq_false_iff, Ne, Bool.and_eq_true]
        rintro ⟨ha, hb⟩
        exact hpos (add_nonpos (toRat_nonpos_of_negative ha) (toRat_nonpos_of_negative hb))
      rw [hleft, hright]

theorem exactSum_assoc (a b c : Decimal) :
    exactSum (exactSum a b) c = exactSum a (exactSum b c) := by
  have hnumber : SameNumber (exactSum (exactSum a b) c) (exactSum a (exactSum b c)) := by
    simp only [SameNumber, toRat_exactSum, add_assoc]
  refine hnumber.eq_of_exp_eq (Int.min_assoc _ _ _) fun hzero ↦ ?_
  have hsum : a.toRat + b.toRat + c.toRat = 0 := by
    rw [← toRat_exactSum, ← toRat_exactSum]
    exact toRat_eq_zero_iff.2 hzero
  have hsum' : b.toRat + c.toRat + a.toRat = 0 := by
    rw [← hsum]
    ring
  have hzero' : (exactSum a (exactSum b c)).isZero = true := hnumber.isZero_eq ▸ hzero
  calc (exactSum (exactSum a b) c).negative
      = ((exactSum a b).negative && c.negative) := negative_exactSum_of_isZero hzero
    _ = (a.negative && b.negative && c.negative) := negative_exactSum_and hsum
    _ = (b.negative && c.negative && a.negative) := by rw [Bool.and_assoc, Bool.and_comm]
    _ = ((exactSum b c).negative && a.negative) := (negative_exactSum_and hsum').symm
    _ = (a.negative && (exactSum b c).negative) := Bool.and_comm _ _
    _ = (exactSum a (exactSum b c)).negative := (negative_exactSum_of_isZero hzero').symm

/-! ## Products -/

theorem exactProduct_comm (a b : Decimal) : exactProduct a b = exactProduct b a := by
  simp only [exactProduct, Nat.mul_comm a.coeff, Int.add_comm a.exp, bne_comm (a := a.negative)]

theorem exactProduct_assoc (a b c : Decimal) :
    exactProduct (exactProduct a b) c = exactProduct a (exactProduct b c) := by
  simp only [exactProduct, Nat.mul_assoc, Int.add_assoc, Bool.bne_assoc]

/-! ## The laws -/

/-- The exact operations on three decimals obey the laws of the rational numbers. Each law holds as
soon as the results in it can be written; for the laws of commutation even this is not needed. -/
structure ObeysLaws (a b c : Decimal) : Prop where
  /-- The sum is exact, at the lower place. -/
  add : WritableAt (a.toRat + b.toRat) (min a.exp b.exp) →
    Gives (a.add b) (a.toRat + b.toRat) (min a.exp b.exp)
  /-- The difference is exact, at the lower place. -/
  subtract : WritableAt (a.toRat - b.toRat) (min a.exp b.exp) →
    Gives (a.subtract b) (a.toRat - b.toRat) (min a.exp b.exp)
  /-- The product is exact, at the sum of the places. -/
  multiply : WritableAt (a.toRat * b.toRat) (a.exp + b.exp) →
    Gives (a.multiply b) (a.toRat * b.toRat) (a.exp + b.exp)
  /-- The opposite is exact and keeps the place. -/
  negate : WritableAt (-a.toRat) a.exp → Gives a.negate (-a.toRat) a.exp
  /-- The absolute value is exact and keeps the place. -/
  absolute : WritableAt |a.toRat| a.exp → Gives a.absolute |a.toRat| a.exp
  /-- Sums are commutative, with their faults. -/
  add_comm : a.add b = b.add a
  /-- Products are commutative, with their faults. -/
  multiply_comm : a.multiply b = b.multiply a
  /-- Sums are associative as representations. -/
  add_assoc : WritableAt (a.toRat + b.toRat) (min a.exp b.exp) →
    WritableAt (b.toRat + c.toRat) (min b.exp c.exp) →
    WritableAt (a.toRat + b.toRat + c.toRat) (min (min a.exp b.exp) c.exp) →
    ∃ ab bc abc, a.add b = .ok ab ∧ b.add c = .ok bc ∧ ab.add c = .ok abc ∧ a.add bc = .ok abc
  /-- Products are associative as representations. -/
  multiply_assoc : WritableAt (a.toRat * b.toRat) (a.exp + b.exp) →
    WritableAt (b.toRat * c.toRat) (b.exp + c.exp) →
    WritableAt (a.toRat * b.toRat * c.toRat) (a.exp + b.exp + c.exp) →
    ∃ ab bc abc, a.multiply b = .ok ab ∧ b.multiply c = .ok bc ∧ ab.multiply c = .ok abc ∧
      a.multiply bc = .ok abc
  /-- Products distribute over sums, as numbers. -/
  multiply_add : WritableAt (b.toRat + c.toRat) (min b.exp c.exp) →
    WritableAt (a.toRat * b.toRat) (a.exp + b.exp) →
    WritableAt (a.toRat * c.toRat) (a.exp + c.exp) →
    WritableAt (a.toRat * (b.toRat + c.toRat)) (a.exp + min b.exp c.exp) →
    ∃ bc ab ac abc abac, b.add c = .ok bc ∧ a.multiply b = .ok ab ∧ a.multiply c = .ok ac ∧
      a.multiply bc = .ok abc ∧ ab.add ac = .ok abac ∧ SameNumber abc abac
  /-- What was added can be taken away again, as a number. -/
  subtract_add : WritableAt (a.toRat + b.toRat) (min a.exp b.exp) →
    WritableAt a.toRat (min a.exp b.exp) →
    ∃ ab r, a.add b = .ok ab ∧ ab.subtract b = .ok r ∧ SameNumber r a

/-- The sum of decimals whose sum can be written. -/
theorem add_of_writableAt (h : WritableAt (a.toRat + b.toRat) (min a.exp b.exp)) :
    a.add b = .ok (exactSum a b) := by
  rw [← toRat_exactSum, ← exp_exactSum] at h
  exact settle_of_fits (fits_iff_writableAt.2 h)

/-- The product of decimals whose product can be written. -/
theorem multiply_of_writableAt (h : WritableAt (a.toRat * b.toRat) (a.exp + b.exp)) :
    a.multiply b = .ok (exactProduct a b) := by
  rw [← toRat_exactProduct] at h
  exact settle_of_fits (fits_iff_writableAt.2 h)

theorem toRat_exactDifference (a b : Decimal) :
    (exactSum a b.flip).toRat = a.toRat - b.toRat := by
  rw [toRat_exactSum, toRat_flip, sub_eq_add_neg]

theorem exists_add_assoc (hab : WritableAt (a.toRat + b.toRat) (min a.exp b.exp))
    (hbc : WritableAt (b.toRat + c.toRat) (min b.exp c.exp))
    (habc : WritableAt (a.toRat + b.toRat + c.toRat) (min (min a.exp b.exp) c.exp)) :
    ∃ ab bc abc, a.add b = .ok ab ∧ b.add c = .ok bc ∧ ab.add c = .ok abc ∧ a.add bc = .ok abc := by
  refine ⟨_, _, exactSum (exactSum a b) c, add_of_writableAt hab, add_of_writableAt hbc, ?_, ?_⟩
  · rw [← toRat_exactSum, ← exp_exactSum] at habc
    exact add_of_writableAt habc
  · rw [exactSum_assoc]
    rw [add_assoc, Int.min_assoc, ← toRat_exactSum, ← exp_exactSum b c] at habc
    exact add_of_writableAt habc

theorem exists_multiply_assoc (hab : WritableAt (a.toRat * b.toRat) (a.exp + b.exp))
    (hbc : WritableAt (b.toRat * c.toRat) (b.exp + c.exp))
    (habc : WritableAt (a.toRat * b.toRat * c.toRat) (a.exp + b.exp + c.exp)) :
    ∃ ab bc abc, a.multiply b = .ok ab ∧ b.multiply c = .ok bc ∧ ab.multiply c = .ok abc ∧
      a.multiply bc = .ok abc := by
  refine ⟨_, _, exactProduct (exactProduct a b) c, multiply_of_writableAt hab,
    multiply_of_writableAt hbc, ?_, ?_⟩
  · rw [← toRat_exactProduct] at habc
    exact multiply_of_writableAt habc
  · rw [exactProduct_assoc]
    rw [mul_assoc, Int.add_assoc, ← toRat_exactProduct] at habc
    exact multiply_of_writableAt habc

theorem exists_multiply_add (hbc : WritableAt (b.toRat + c.toRat) (min b.exp c.exp))
    (hab : WritableAt (a.toRat * b.toRat) (a.exp + b.exp))
    (hac : WritableAt (a.toRat * c.toRat) (a.exp + c.exp))
    (habc : WritableAt (a.toRat * (b.toRat + c.toRat)) (a.exp + min b.exp c.exp)) :
    ∃ bc ab ac abc abac, b.add c = .ok bc ∧ a.multiply b = .ok ab ∧ a.multiply c = .ok ac ∧
      a.multiply bc = .ok abc ∧ ab.add ac = .ok abac ∧ SameNumber abc abac := by
  have hsum : a.toRat * b.toRat + a.toRat * c.toRat = a.toRat * (b.toRat + c.toRat) := by ring
  have hplace : min (a.exp + b.exp) (a.exp + c.exp) = a.exp + min b.exp c.exp := by omega
  refine ⟨_, _, _, exactProduct a (exactSum b c), exactSum (exactProduct a b) (exactProduct a c),
    add_of_writableAt hbc, multiply_of_writableAt hab, multiply_of_writableAt hac, ?_, ?_, ?_⟩
  · rw [← toRat_exactSum, ← exp_exactSum] at habc
    exact multiply_of_writableAt habc
  · rw [← hsum, ← hplace, ← toRat_exactProduct, ← toRat_exactProduct] at habc
    exact add_of_writableAt habc
  · rw [SameNumber, toRat_exactProduct, toRat_exactSum, toRat_exactSum, toRat_exactProduct,
      toRat_exactProduct, hsum]

theorem exists_subtract_add (hab : WritableAt (a.toRat + b.toRat) (min a.exp b.exp))
    (ha : WritableAt a.toRat (min a.exp b.exp)) :
    ∃ ab r, a.add b = .ok ab ∧ ab.subtract b = .ok r ∧ SameNumber r a := by
  have hnumber : (exactSum (exactSum a b) b.flip).toRat = a.toRat := by
    rw [toRat_exactDifference, toRat_exactSum, add_sub_cancel_right]
  have hplace : (exactSum (exactSum a b) b.flip).exp = min a.exp b.exp := by
    show min (min a.exp b.exp) b.exp = min a.exp b.exp
    omega
  obtain ⟨r, hr, hsame, -⟩ := gives_settle hnumber hplace ha
  exact ⟨_, r, add_of_writableAt hab, hr, hsame⟩

/-- **The exact operations obey the laws of the rational numbers.** -/
theorem obeysLaws (a b c : Decimal) : ObeysLaws a b c where
  add := gives_settle (toRat_exactSum a b) rfl
  subtract := gives_settle (toRat_exactDifference a b) rfl
  multiply := gives_settle (toRat_exactProduct a b) rfl
  negate := gives_settle (toRat_opposite a) rfl
  absolute := gives_settle (toRat_positive a) rfl
  add_comm := congrArg settle (exactSum_comm a b)
  multiply_comm := congrArg settle (exactProduct_comm a b)
  add_assoc := exists_add_assoc
  multiply_assoc := exists_multiply_assoc
  multiply_add := exists_multiply_add
  subtract_add := exists_subtract_add

/-- Opposites and a negative zero, whose sum is a positive zero in either order. -/
theorem obeysLaws_opposites :
    ∃ ab bc abc, add ⟨false, 125, -2⟩ ⟨true, 125, -2⟩ = .ok ab ∧
      add ⟨true, 125, -2⟩ ⟨true, 0, -1⟩ = .ok bc ∧ ab.add ⟨true, 0, -1⟩ = .ok abc ∧
      add ⟨false, 125, -2⟩ bc = .ok abc := by
  have hab : WritableAt (toRat ⟨false, 125, -2⟩ + toRat ⟨true, 125, -2⟩) (-2) :=
    ⟨⟨false, 0, -2⟩, by norm_num [toRat], rfl, by decide⟩
  have hbc : WritableAt (toRat ⟨true, 125, -2⟩ + toRat ⟨true, 0, -1⟩) (-2) :=
    ⟨⟨true, 125, -2⟩, by norm_num [toRat], rfl, by decide⟩
  have habc : WritableAt
      (toRat ⟨false, 125, -2⟩ + toRat ⟨true, 125, -2⟩ + toRat ⟨true, 0, -1⟩) (-2) :=
    ⟨⟨false, 0, -2⟩, by norm_num [toRat], rfl, by decide⟩
  exact (obeysLaws ⟨false, 125, -2⟩ ⟨true, 125, -2⟩ ⟨true, 0, -1⟩).add_assoc hab hbc habc

end Decimal

end ChainedDecimal
