import ChainedDecimal.Proofs.Decimal.Nearest
import ChainedDecimal.Proofs.Operator.Scaled

/-!
# Rounding is a monotone projection

To round to a scale is to round to its place. The unit of the scale is formed first, and there are
two ways in which it can miss the limits. Where it is too large there is no rounding to the scale at
all, whatever the value. Where it is too small what is rounded to is the lowest place there is; a
value within the limits has no digits below that, so it is left alone.

So at each scale rounding is one function of the number, which is monotone, odd and idempotent. What
has been rounded to a coarser scale is not changed by a finer one.
-/

namespace ChainedDecimal

namespace Decimal

variable {d u v w x y : Decimal} {s t : ℤ}

/-! ## The place of a scale -/

/-- The place that rounding to a scale goes to. -/
def placeOf (scale : ℤ) : ℤ := max (-scale) tinyExponent

theorem placeOf_le_of_le (h : s ≤ t) : placeOf t ≤ placeOf s := by
  unfold placeOf
  omega

/-- The unit of a scale, if there is one, stands at its place. -/
theorem exp_of_placed (h : placed false 1 (-s) = .ok u) : u.exp = placeOf s := by
  have hdigits : digits ⟨false, 1, -s⟩ = 1 := show digitCount 1 = 1 from rfl
  have hadjusted : adjusted ⟨false, 1, -s⟩ = -s := by
    rw [adjusted, hdigits]
    exact Int.add_sub_cancel (-s) 1
  obtain ⟨-, h⟩ := Fault.check_eq_ok.1 h
  by_cases hlow : -s < tinyExponent
  · have hadd := tinyExponent_add
    have hrange := minExponent_le_maxExponent
    have hpos := precision_pos
    rw [settle, hadjusted, if_neg (by omega), if_pos (by omega), fitTiny, if_pos hlow,
      Except.ok.injEq] at h
    rw [← h]
    exact (max_eq_right hlow.le).symm
  · have hexp : placeOf s = -s := max_eq_left (Int.not_lt.1 hlow)
    rw [hexp]
    by_cases hhigh : -s ≤ maxExponent
    · have hunit : Fits ⟨false, 1, -s⟩ :=
        ⟨hdigits.trans_le precision_pos, Int.not_lt.1 hlow, hadjusted.le.trans hhigh⟩
      rw [settle_of_fits hunit, Except.ok.injEq] at h
      rw [← h]
    · rw [settle, hadjusted, if_pos (Int.not_le.1 hhigh)] at h
      cases h

/-- Whether there is a rounding to a scale is a matter of the scale alone. -/
theorem round_cases (s : ℤ) :
    (∃ f, ∀ d : Decimal, d.round s = .error f) ∨
      ∀ d : Decimal, d.round s = d.quantize (placeOf s) := by
  cases hunit : placed false 1 (-s) with
  | error f =>
    refine Or.inl ⟨f, fun d ↦ ?_⟩
    rw [round, hunit]
  | ok u =>
    refine Or.inr fun d ↦ ?_
    rw [round, hunit, ← exp_of_placed hunit]

/-- Where one value can be rounded to a scale, another one can if the result fits. -/
theorem round_eq_ok (h : d.round s = .ok w) :
    ∀ x : Decimal, (x.roundedAt (placeOf s)).Fits → x.round s = .ok (x.roundedAt (placeOf s)) := by
  intro x hx
  rcases round_cases s with ⟨f, hnone⟩ | hplace
  · rw [hnone d] at h
    cases h
  · rw [hplace x, quantize_of_fits hx]

/-- What comes out of a rounding is the value rounded to the place of the scale. -/
theorem roundedAt_of_round (h : d.round s = .ok w) :
    (d.roundedAt (placeOf s)).Fits ∧ w = d.roundedAt (placeOf s) := by
  rcases round_cases s with ⟨f, hnone⟩ | hplace
  · rw [hnone d] at h
    cases h
  · rw [hplace d] at h
    exact quantize_eq_ok_iff.1 h

/-! ## The projection -/

/-- Rounding to a scale respects the order and the sign, moves a number by at most half a unit, and
does nothing to what has been rounded to this scale or to a coarser one. -/
structure RoundsMonotonically (x y : Decimal) (s t : ℤ) : Prop where
  /-- The larger of two numbers is the larger one after rounding. -/
  monotone : ∀ u v, x.round s = .ok u → y.round s = .ok v → x.toRat ≤ y.toRat → u.toRat ≤ v.toRat
  /-- What has been rounded can be rounded again, which leaves the representation as it is. -/
  idempotent : ∀ u, x.round s = .ok u → u.round s = .ok u
  /-- What has been rounded is not changed as a number at a finer scale. -/
  finer : ∀ u v, x.round s = .ok u → u.round t = .ok v → SameNumber v u
  /-- If a value can be rounded so can its opposite, to the opposite number. -/
  opposite : ∀ u, x.round s = .ok u →
    ∃ n v, x.negate = .ok n ∧ n.round s = .ok v ∧ v.toRat = -u.toRat
  /-- A number is moved by at most half a unit of the scale. -/
  near : ∀ u, x.round s = .ok u → |u.toRat - x.toRat| ≤ 1 / 2 * (10 : ℚ) ^ (-s)

theorem negate_of_fits (h : d.Fits) :
    d.negate = .ok { d with negative := !d.negative && !d.isZero } :=
  settle_of_fits h

theorem abs_round_sub_le (hx : x.Fits) (h : x.round s = .ok u) :
    |u.toRat - x.toRat| ≤ 1 / 2 * (10 : ℚ) ^ (-s) := by
  obtain ⟨-, rfl⟩ := roundedAt_of_round h
  by_cases hlow : tinyExponent ≤ -s
  · have hplace : placeOf s = -s := by
      unfold placeOf
      omega
    rw [hplace, toRat_roundedAt]
    exact abs_roundTo_sub_le (-s) x.toRat
  · -- The value ends at the lowest place or above it, so nothing of it is lost.
    have hplace : placeOf s ≤ x.exp := by
      have hexp := hx.2.1
      unfold placeOf
      omega
    rw [toRat_roundedAt, roundTo_toRat hplace, sub_self, abs_zero]
    have hpos := pow_exp_pos (-s)
    positivity

/-- **Rounding is a monotone projection.** Of the values only the first has to be within the limits,
and it only for its opposite and for the distance; all else holds of any. -/
theorem roundsMonotonically (hx : x.Fits) (y : Decimal) (hst : s ≤ t) :
    RoundsMonotonically x y s t where
  monotone u v hu hv hle := by
    obtain ⟨-, rfl⟩ := roundedAt_of_round hu
    obtain ⟨-, rfl⟩ := roundedAt_of_round hv
    rw [toRat_roundedAt, toRat_roundedAt]
    exact roundTo_mono _ hle
  idempotent u hu := by
    obtain ⟨hfits, rfl⟩ := roundedAt_of_round hu
    have hself : (x.roundedAt (placeOf s)).roundedAt (placeOf s) = x.roundedAt (placeOf s) :=
      roundedAt_self rfl
    have hagain := round_eq_ok hu (x.roundedAt (placeOf s)) (hself.symm ▸ hfits)
    rwa [hself] at hagain
  finer u v hu hv := by
    obtain ⟨-, rfl⟩ := roundedAt_of_round hu
    obtain ⟨-, rfl⟩ := roundedAt_of_round hv
    exact (toRat_roundedAt _ _).trans (roundTo_toRat (placeOf_le_of_le hst))
  opposite u hu := by
    obtain ⟨hfits, rfl⟩ := roundedAt_of_round hu
    refine ⟨_, _, negate_of_fits hx, round_eq_ok hu _ hfits, ?_⟩
    rw [toRat_roundedAt, toRat_roundedAt, toRat_opposite, roundTo_neg]
  near u hu := abs_round_sub_le hx hu

/-- A tie below zero, whose opposite is a tie above it. -/
theorem roundsMonotonically_tie :
    Fits ⟨true, 125, -2⟩ ∧ (1 : ℤ) ≤ 3 ∧ round ⟨true, 125, -2⟩ 1 = .ok ⟨true, 13, -1⟩ ∧
      ∃ n v, negate ⟨true, 125, -2⟩ = .ok n ∧ n.round 1 = .ok v ∧
        v.toRat = -toRat ⟨true, 13, -1⟩ := by
  have hround : round ⟨true, 125, -2⟩ 1 = .ok ⟨true, 13, -1⟩ := by decide
  have hlaws := roundsMonotonically (x := ⟨true, 125, -2⟩) (by decide) .zero
    (s := 1) (t := 3) (by decide)
  exact ⟨by decide, by decide, hround, hlaws.opposite _ hround⟩

end Decimal

end ChainedDecimal
