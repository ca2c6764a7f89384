import ChainedDecimal.Decimal.Limits
import ChainedDecimal.Text.Digit

/-!
# Reading numerals

A finite numeral is an optional sign, digits with at most one point among or around them, and an
optional exponent behind an `E`. The digits are read as one natural number, whatever the place of
the point, and each digit after the point lowers the exponent by one; nothing is normalized, so the
reader recovers exactly the representation that was written. A numeral beyond the limits of the
decimals is not read at all, since it could not be kept as it is written.

## Spelling

Case does not matter, underscores are passed over wherever they stand, blanks may surround the
numeral, and the digits may be those of any script. All this is settled first, by `plainChars`, so
that the grammar itself knows one spelling of each character only.
-/

namespace ChainedDecimal

/-- A text without blanks around it and without underscores, in plain digits and small letters. -/
def plainChars (cs : List Char) : List Char :=
  ((trimBlanks cs).filter (· != '_')).map fun c ↦ (plainDigit c).toLower

/-- Splits off an optional sign; the answer says whether it was a minus. -/
def splitSign : List Char → Bool × List Char
  | '-' :: cs => (true, cs)
  | '+' :: cs => (false, cs)
  | cs => (false, cs)

/-- Splits off the leading digits. -/
def splitDigits (cs : List Char) : List Char × List Char :=
  (cs.takeWhile Char.isDigit, cs.dropWhile Char.isDigit)

/-- The natural number that digits write. -/
def natOfDigits (ds : List Char) : Nat := Nat.ofDigitChars 10 ds 0

/-- Reads an integer: an optional sign and at least one digit. -/
def intOfChars? (cs : List Char) : Option Int :=
  let (negative, ds) := splitSign cs
  if ds ≠ [] ∧ ds.all Char.isDigit then
    some (if negative then -(natOfDigits ds : Int) else natOfDigits ds)
  else none

/-- Splits off a point and the digits behind it, if a point comes first. -/
def splitFraction : List Char → List Char × List Char
  | '.' :: cs => splitDigits cs
  | cs => ([], cs)

/-- Reads an optional exponent, up to the end. -/
def exponentOfChars? : List Char → Option Int
  | [] => some 0
  | c :: cs => if c = 'e' then intOfChars? cs else none

/-- Reads the text of a decimal behind its sign. -/
def Decimal.ofUnsignedChars? (negative : Bool) (cs : List Char) : Option Decimal :=
  let (whole, afterWhole) := splitDigits cs
  let (fraction, afterFraction) := splitFraction afterWhole
  if whole ++ fraction = [] then none
  else
    (exponentOfChars? afterFraction).map fun e ↦
      ⟨negative, natOfDigits (whole ++ fraction), e - fraction.length⟩

/-- Reads the digits of a payload, up to the end. -/
def payloadOfChars? (cs : List Char) : Option Nat :=
  if cs.all Char.isDigit then some (natOfDigits cs) else none

/-- Reads an infinity or a "not a number" behind its sign. -/
def Special.ofChars? (cs : List Char) : Option Special :=
  if cs = "infinity".toList ∨ cs = "inf".toList then some .infinity
  else if "nan".toList.isPrefixOf cs then (payloadOfChars? (cs.drop 3)).map .quietNan
  else if "snan".toList.isPrefixOf cs then (payloadOfChars? (cs.drop 4)).map .signalingNan
  else none

/-- Reads a numeral in plain characters. -/
def Numeral.ofPlainChars? (cs : List Char) : Option Numeral :=
  let (negative, rest) := splitSign cs
  match Decimal.ofUnsignedChars? negative rest with
  | some d => if d.Fits then some (.finite d) else none
  | none => (Special.ofChars? rest).map fun kind ↦ .special ⟨negative, kind⟩

/-- Reads a numeral. -/
def Numeral.ofString? (s : String) : Option Numeral := ofPlainChars? (plainChars s.toList)

/-- Reads a numeral; a text that is none is an invalid operation. -/
def Numeral.ofString (s : String) : Except Fault Numeral :=
  Fault.require .invalidOperation (ofString? s)

/-- Reads an integer, which may be written with blanks around it and in the digits of any script. -/
def intOfString? (s : String) : Option Int := intOfChars? ((trimBlanks s.toList).map plainDigit)

end ChainedDecimal
