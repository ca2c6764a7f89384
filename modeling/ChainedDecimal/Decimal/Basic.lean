/-!
# Finite decimals

A finite decimal is a sign, a coefficient and an exponent, and the three are kept as they are
written: `1.50`, `1.5` and `15E-1` are the number 3/2 in two representations, and `0`, `-0` and
`0E+2` are three zeros. Calculations answer for the representation as well as for the number, so
equality of the structure is equality of representations, and equality of numbers is a function of
its own.

## Representation

`⟨s, c, e⟩` stands for `(-1)ˢ · c · 10ᵉ`. The coefficient has `digits` decimal digits, where zero
has one digit, and `adjusted` is the exponent of the leading digit, `e + digits - 1`. Exponents
reach far beyond what a power of ten could be computed for, so two decimals are compared by sign and
adjusted exponent first: coefficients are aligned only once their leading digits are known to stand
at the same place, when the difference of the exponents is a difference of digit counts.

## Normal forms

`reduced` moves the trailing zeros of the coefficient into the exponent and gives a zero the
exponent `0`. Two nonzero decimals are the same number exactly when their reduced forms are the same
representation, which is how `sameValue` decides it.
-/

namespace ChainedDecimal

/-- A finite decimal, `(-1) ^ negative * coeff * 10 ^ exp`. -/
structure Decimal where
  /-- The sign, which a zero has too. -/
  negative : Bool
  /-- The digits, read as a natural number. -/
  coeff : Nat
  /-- The place of the last digit: `0` for units, `-2` for hundredths. -/
  exp : Int
deriving DecidableEq, Inhabited

/-! ## Counting and dropping digits -/

/-- The number of decimal digits of `n`; zero has one. -/
def digitCount (n : Nat) : Nat := (Nat.toDigits 10 n).length

theorem digitCount_pos (n : Nat) : 0 < digitCount n := Nat.length_toDigits_pos

theorem digitCount_le_iff {n k : Nat} (hk : 0 < k) : digitCount n ≤ k ↔ n < Nat.pow 10 k :=
  Nat.length_toDigits_le_iff (by decide) hk

theorem lt_pow_digitCount (n : Nat) : n < Nat.pow 10 (digitCount n) :=
  (digitCount_le_iff (digitCount_pos n)).1 (Nat.le_refl _)

theorem pow_digitCount_le {n : Nat} (h : n ≠ 0) : Nat.pow 10 (digitCount n - 1) ≤ n := by
  have hpos := digitCount_pos n
  obtain hone | hmore : digitCount n = 1 ∨ 0 < digitCount n - 1 := by omega
  · rw [hone]
    exact Nat.pos_of_ne_zero h
  · have hlong : ¬digitCount n ≤ digitCount n - 1 := by omega
    rw [digitCount_le_iff hmore] at hlong
    exact Nat.le_of_not_lt hlong

/-- The quotient `n / d` to the nearest natural number, a half going up. -/
def nearest (n d : Nat) : Nat := (2 * n + d) / (2 * d)

/-- Drops the last `k` digits of `c`, rounding to the nearest, a half going up. More digits than `c`
has leave nothing, and this is told from the digit count alone, without the power of ten. -/
def dropDigits (c k : Nat) : Nat := if digitCount c < k then 0 else nearest c (Nat.pow 10 k)

namespace Decimal

/-! ## Views -/

/-- The integer `n`, with exponent zero. -/
def ofInt (n : Int) : Decimal := ⟨decide (n < 0), n.natAbs, 0⟩

/-- The decimal `0`. -/
def zero : Decimal := ⟨false, 0, 0⟩

/-- The decimal `1`. -/
def one : Decimal := ⟨false, 1, 0⟩

/-- Whether the number is zero, whatever its sign and exponent. -/
def isZero (d : Decimal) : Bool := d.coeff == 0

/-- The number of digits of the coefficient. -/
def digits (d : Decimal) : Nat := digitCount d.coeff

/-- The exponent of the leading digit. -/
def adjusted (d : Decimal) : Int := d.exp + d.digits - 1

/-- The coefficient that `d` has at an exponent `e` not above its own. A zero has coefficient zero
at every exponent. -/
def coeffAt (d : Decimal) (e : Int) : Nat :=
  if d.coeff = 0 then 0 else d.coeff * Nat.pow 10 (d.exp - e).toNat

/-- The coefficient at the exponent `e`, with the sign. -/
def signedAt (d : Decimal) (e : Int) : Int :=
  if d.negative then -(d.coeffAt e : Int) else d.coeffAt e

theorem coeffAt_eq (d : Decimal) (e : Int) :
    d.coeffAt e = d.coeff * Nat.pow 10 (d.exp - e).toNat := by
  unfold coeffAt
  split
  · simp [*]
  · rfl

/-! ## Numbers rather than representations -/

/-- Moves the trailing zeros of a coefficient into the exponent; zero keeps its exponent. -/
def stripZeros (c : Nat) (e : Int) : Nat × Int :=
  if _h : c ≠ 0 ∧ c % 10 = 0 then stripZeros (c / 10) (e + 1) else (c, e)
termination_by c
decreasing_by omega

/-- The representation without trailing zeros; a zero keeps its sign and gets the exponent `0`. -/
def reduced (d : Decimal) : Decimal :=
  if d.isZero then ⟨d.negative, 0, 0⟩
  else ⟨d.negative, (stripZeros d.coeff d.exp).1, (stripZeros d.coeff d.exp).2⟩

/-- Whether two decimals are the same number. All zeros are. -/
def sameValue (a b : Decimal) : Bool := (a.isZero && b.isZero) || a.reduced == b.reduced

/-- Compares two decimals without their signs. -/
def compareMagnitude (a b : Decimal) : Ordering :=
  if a.isZero || b.isZero then compare a.coeff b.coeff
  else
    match compare a.adjusted b.adjusted with
    | .eq => compare (a.coeffAt (min a.exp b.exp)) (b.coeffAt (min a.exp b.exp))
    | o => o

/-- Whether the number is below zero; `-0` is not. -/
def isNegative (d : Decimal) : Bool := d.negative && !d.isZero

/-- Compares two decimals as numbers. -/
def compareValue (a b : Decimal) : Ordering :=
  match a.isNegative, b.isNegative with
  | true, false => .lt
  | false, true => .gt
  | false, false => compareMagnitude a b
  | true, true => compareMagnitude b a

end Decimal

end ChainedDecimal
