import ChainedDecimal.Decimal.Basic

/-!
# The text of a decimal

Every representation has one text and different representations have different texts, so a text may
stand for the decimal it shows.

## The two notations

Write `d` for the digits of the coefficient. While the exponent is not positive and the leading
digit stands no lower than the sixth place after the point, the digits are written out with a point
in their place: `-1.50`, `0.000001`, `-0`. All other decimals are written with one digit before the
point and the adjusted exponent, always signed, behind an `E`: `1.20E+5`, `1E-7`, `0E+2`. Trailing
zeros and the sign of a zero are written in both.
-/

namespace ChainedDecimal

/-- The decimal digits of a natural number, without leading zeros. -/
def digitChars (n : Nat) : List Char := Nat.toDigits 10 n

namespace Decimal

/-- The leading digit may stand this many places after the point before an exponent is written. -/
def deepestPlain : Int := -6

/-- Whether the digits are written out without an exponent. -/
def isPlain (d : Decimal) : Bool := decide (d.exp ≤ 0) && decide (deepestPlain ≤ d.adjusted)

/-- Puts a point before the last `places` of the digits, with zeros in front where there are too few
digits. Without places there is no point. -/
def pointed (ds : List Char) (places : Nat) : List Char :=
  if places = 0 then ds
  else if places < ds.length then
    ds.take (ds.length - places) ++ '.' :: ds.drop (ds.length - places)
  else '0' :: '.' :: (List.replicate (places - ds.length) '0' ++ ds)

/-- An exponent with its sign: `+3`, `-7`. -/
def exponentChars (e : Int) : List Char :=
  (if e < 0 then '-' else '+') :: digitChars e.natAbs

/-- One digit, the others behind a point, and the adjusted exponent behind an `E`. -/
def scientific (ds : List Char) (adjusted : Int) : List Char :=
  pointed ds (ds.length - 1) ++ 'E' :: exponentChars adjusted

/-- The text without the sign. -/
def unsignedChars (d : Decimal) : List Char :=
  if d.isPlain then pointed (digitChars d.coeff) d.exp.natAbs
  else scientific (digitChars d.coeff) d.adjusted

/-- The text of a decimal, character by character. -/
def chars (d : Decimal) : List Char :=
  if d.negative then '-' :: d.unsignedChars else d.unsignedChars

/-- The text of a decimal. -/
def text (d : Decimal) : String := String.ofList d.chars

end Decimal

/-- The text of an integer. -/
def intText (n : Int) : String := (Decimal.ofInt n).text

end ChainedDecimal
