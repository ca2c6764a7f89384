import ChainedDecimal.Decimal.Reading
import ChainedDecimal.Operator.Apply
import ChainedDecimal.Pool
import ChainedDecimal.Proofs.Outcome

/-!
# Everything that is settled fits

Whatever an operation gives is within the limits of the decimals, also where rounding has carried
into a new digit or has given up digits at the lowest place. So a calculation never holds a decimal
that does not fit, provided that the decimals it was given do; and of these the reader of numerals
takes care. For such a decimal every pool has an answer.
-/

namespace ChainedDecimal

/-! ## Digits that are left after rounding -/

theorem nearest_le {n d b : Nat} (hd : 0 < d) (h : n ≤ d * b) : nearest n d ≤ b := by
  have hmul : (b + 1) * (2 * d) = 2 * (d * b) + 2 * d := by
    rw [Nat.add_mul, Nat.one_mul, Nat.mul_left_comm, Nat.mul_comm b d]
  rw [nearest, ← Nat.lt_succ_iff, Nat.div_lt_iff_lt_mul (by omega), hmul]
  omega

/-- Of `k + m` digits at most `m` are left when `k` are dropped, unless the rounding carries into a
new one. -/
theorem dropDigits_le {c k m : Nat} (h : digitCount c ≤ k + m) :
    dropDigits c k ≤ Nat.pow 10 m := by
  have hlt : c < Nat.pow 10 (k + m) := by
    have hpow : Nat.pow 10 (digitCount c) ≤ Nat.pow 10 (k + m) :=
      Nat.pow_le_pow_right (by decide) h
    exact Nat.lt_of_lt_of_le (lt_pow_digitCount c) hpow
  unfold dropDigits
  split
  · exact Nat.zero_le _
  · refine nearest_le (Nat.pow_pos (by decide)) ?_
    have hsplit : Nat.pow 10 (k + m) = Nat.pow 10 k * Nat.pow 10 m := Nat.pow_add 10 k m
    omega

theorem digitCount_le_of_le_pow {n m : Nat} (h : n ≤ Nat.pow 10 m) : digitCount n ≤ m + 1 := by
  have hlt : Nat.pow 10 m < Nat.pow 10 (m + 1) :=
    Nat.pow_lt_pow_right (by decide) (Nat.lt_succ_self m)
  exact (digitCount_le_iff (Nat.succ_pos m)).2 (Nat.lt_of_le_of_lt h hlt)

/-- A power of ten has a zero to drop. -/
theorem digitCount_tenth_le {n m : Nat} (hm : 0 < m) (h : n ≤ Nat.pow 10 m) :
    digitCount (n / 10) ≤ m := by
  obtain ⟨k, rfl⟩ : ∃ k, m = k + 1 := ⟨m - 1, by omega⟩
  have hpow : Nat.pow 10 (k + 1) = Nat.pow 10 k * 10 := rfl
  exact digitCount_le_of_le_pow (by omega)

@[simp] theorem digitCount_zero : digitCount 0 = 1 := rfl

/-! ## Settling -/

namespace Decimal

theorem precision_pos : 0 < precision := by decide

theorem minExponent_le_maxExponent : minExponent ≤ maxExponent := by decide

theorem tinyExponent_le_maxExponent : tinyExponent ≤ maxExponent := by decide

theorem tinyExponent_add : tinyExponent + precision = minExponent + 1 := by
  unfold tinyExponent
  omega

variable {d e : Decimal}

theorem digits_of_isZero (h : d.isZero = true) : d.digits = 1 := by
  have hcoeff : d.coeff = 0 := by simpa [isZero] using h
  rw [digits, hcoeff, digitCount_zero]

theorem fits_mk {negative : Bool} {coeff : Nat} {exp : Int} :
    Fits ⟨negative, coeff, exp⟩ ↔ digitCount coeff ≤ precision ∧ tinyExponent ≤ exp ∧
      exp + digitCount coeff - 1 ≤ maxExponent := Iff.rfl

theorem fits_fitTiny (h : d.adjusted < minExponent) : d.fitTiny.Fits := by
  have hplaces := tinyExponent_add
  have hrange := minExponent_le_maxExponent
  have hpos := precision_pos
  unfold adjusted digits at h
  unfold fitTiny
  split
  · -- What stood above the lowest place were fewer digits than there are, so a carry is no harm.
    have hkept : digitCount d.coeff ≤ (tinyExponent - d.exp).toNat + (precision - 1) := by omega
    have hdigits := digitCount_le_of_le_pow (dropDigits_le hkept)
    exact fits_mk.2 (by omega)
  · exact fits_mk.2 (by omega)

theorem fits_of_fitPrecision (hlow : minExponent ≤ d.adjusted) (hlong : precision < d.digits)
    (h : d.fitPrecision = .ok e) : e.Fits := by
  have hplaces : tinyExponent ≤ d.exp + ((d.digits - precision : Nat) : Int) := by
    have hadd := tinyExponent_add
    unfold adjusted at hlow
    omega
  have hkept : dropDigits d.coeff (d.digits - precision) ≤ Nat.pow 10 precision := by
    refine dropDigits_le ?_
    unfold digits at hlong ⊢
    omega
  simp only [fitPrecision] at h
  generalize d.digits - precision = excess at h hplaces hkept
  generalize dropDigits d.coeff excess = kept at h hkept
  obtain ⟨hmax, hfitted⟩ := Fault.check_eq_ok.1 h
  rw [Except.ok.injEq] at hfitted
  rw [Int.not_lt] at hmax
  subst hfitted
  split at hmax
  · rename_i hcarry
    rw [if_pos hcarry]
    have hplaces' := Int.le_trans hplaces (Int.le_add_one (Int.le_refl _))
    exact ⟨digitCount_tenth_le precision_pos hkept, hplaces', hmax⟩
  · rename_i hshort
    rw [if_neg hshort]
    exact ⟨Nat.le_of_not_lt hshort, hplaces, hmax⟩

/-- What is settled fits. -/
theorem fits_of_settle (h : d.settle = .ok e) : e.Fits := by
  have hplaces := tinyExponent_add
  have hpos := precision_pos
  have hrange := tinyExponent_le_maxExponent
  unfold settle at h
  by_cases hmax : maxExponent < d.adjusted
  · rw [if_pos hmax] at h
    split at h
    · rename_i hzero
      have hone : digitCount d.coeff = 1 := digits_of_isZero hzero
      cases h
      exact fits_mk.2 (by omega)
    · cases h
  · rw [if_neg hmax] at h
    by_cases hmin : d.adjusted < minExponent
    · rw [if_pos hmin] at h
      cases h
      exact fits_fitTiny hmin
    · rw [if_neg hmin] at h
      split at h
      · rename_i hlong
        exact fits_of_fitPrecision (Int.not_lt.1 hmin) hlong h
      · cases h
        unfold adjusted digits at hmin hmax
        unfold digits at *
        exact fits_mk.2 (by omega)

theorem fits_zero : zero.Fits := by decide

/-! ## Operations -/

theorem fits_of_placed {negative : Bool} {coeff : Nat} {exp : Int}
    (h : placed negative coeff exp = .ok e) : e.Fits :=
  fits_of_settle (Fault.check_eq_ok.1 h).2

theorem fits_of_divide {a b : Decimal} {scale : Int} (h : a.divide b scale = .ok e) : e.Fits :=
  fits_of_placed (Fault.check_eq_ok.1 h).2

theorem fits_of_quantize {x : Int} (h : d.quantize x = .ok e) : e.Fits := by
  obtain ⟨-, h⟩ := Fault.check_eq_ok.1 h
  split at h
  · exact fits_of_settle h
  · obtain ⟨-, h⟩ := Fault.check_eq_ok.1 h
    exact fits_of_settle (Fault.check_eq_ok.1 h).2

theorem fits_of_round {scale : Int} (h : d.round scale = .ok e) : e.Fits := by
  unfold round at h
  split at h
  · cases h
  · exact fits_of_quantize h

end Decimal

theorem BinaryOp.fits_of_apply {op : BinaryOp} {a b w : Decimal} {scale : Argument}
    (h : op.apply a b scale = .ok w) : w.Fits := by
  match op with
  | .add | .subtract | .multiply => exact Decimal.fits_of_settle h
  | .divide =>
    obtain ⟨s, -, hs⟩ := Fault.bind_eq_ok.1 h
    exact Decimal.fits_of_divide hs

theorem UnaryOp.fits_of_apply {op : UnaryOp} {v w : Decimal} {scale : Argument}
    (h : op.apply v scale = .ok w) : w.Fits := by
  match op with
  | .negate | .absolute => exact Decimal.fits_of_settle h
  | .round =>
    obtain ⟨s, -, hs⟩ := Fault.bind_eq_ok.1 h
    exact Decimal.fits_of_round hs

/-! ## Where decimals come from and where they go -/

/-- A numeral that is read as a finite decimal fits. -/
theorem Numeral.fits_of_ofString? {s : String} {d : Decimal}
    (h : Numeral.ofString? s = some (.finite d)) : d.Fits := by
  unfold Numeral.ofString? Numeral.ofPlainChars? at h
  simp only at h
  split at h
  · split at h
    · rename_i hfits
      rw [Option.some.injEq, Numeral.finite.injEq] at h
      exact h ▸ hfits
    · cases h
  · obtain ⟨kind, -, hkind⟩ := Option.map_eq_some_iff.1 h
    cases hkind

/-- Whatever decimal an operand stands for fits. -/
def Argument.Fits (a : Argument) : Prop := ∀ d, a.toDecimal = .ok d → d.Fits

instance (a : Argument) : Decidable a.Fits :=
  match h : a.toDecimal with
  | .ok d => decidable_of_iff d.Fits (by simp [Argument.Fits, h])
  | .error _ => isTrue (by simp [Argument.Fits, h])

/-- Whatever decimal an operand stands for has a property. -/
def Argument.Satisfies (P : Decimal → Prop) (a : Argument) : Prop := ∀ d, a.toDecimal = .ok d → P d

instance {P : Decimal → Prop} [DecidablePred P] (a : Argument) : Decidable (a.Satisfies P) :=
  match h : a.toDecimal with
  | .ok d => decidable_of_iff (P d) (by simp [Argument.Satisfies, h])
  | .error _ => isTrue (by simp [Argument.Satisfies, h])

theorem Argument.Satisfies.of_toDecimal? {P : Decimal → Prop} {a : Argument} (h : a.Satisfies P)
    {d : Decimal} (hd : a.toDecimal? = .ok (some d)) : P d := by
  by_cases hab : a = .absent
  · rw [hab] at hd
    cases hd
  · rw [toDecimal?_of_ne_absent hab] at hd
    obtain ⟨e, he, heq⟩ := Fault.map_eq_ok.1 hd
    cases heq
    exact h d he

theorem Argument.fits_of_toDecimal? {a : Argument} (h : a.Fits) {d : Decimal}
    (hd : a.toDecimal? = .ok (some d)) : d.Fits :=
  Satisfies.of_toDecimal? h hd

/-- A first value that is left out is zero, which fits. -/
theorem Argument.fits_getD_toDecimal? {a : Argument} (h : a.Fits) {v : Option Decimal}
    (hv : a.toDecimal? = .ok v) : (v.getD .zero).Fits := by
  rcases v with _ | d
  · exact Decimal.fits_zero
  · exact fits_of_toDecimal? h hv

theorem Decimal.normalize_of_fits {d : Decimal} (h : d.Fits) : d.normalize = .ok d.reduced := by
  rw [normalize, settle_of_fits h]
  rfl

/-- Every pool has an answer for a decimal that fits. -/
theorem Pool.exists_get {d : Decimal} (h : d.Fits) (p : Pool) : ∃ e q, p.get d = .ok (e, q) := by
  match p with
  | .keeping p =>
    refine ⟨(p.place d.reduced).1, .keeping (p.place d.reduced).2, ?_⟩
    rw [Pool.get, KeepingPool.get, Decimal.normalize_of_fits h]
    rfl
  | .plain => exact ⟨d, .plain, rfl⟩
  | .disabled => exact ⟨d, .disabled, rfl⟩

end ChainedDecimal
