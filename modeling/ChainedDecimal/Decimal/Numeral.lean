import ChainedDecimal.Decimal.Text

/-!
# Numerals

A numeral is what may be written where a decimal is expected: a finite decimal, an infinity, or a
"not a number" with an optional payload. Chains and groups take finite decimals only, so the others
exist there in order to be refused by name.
-/

namespace ChainedDecimal

/-- The numerals without a finite value. -/
inductive Special where
  /-- An infinity. -/
  | infinity
  /-- Not a number; a payload of zero is none. -/
  | quietNan (payload : Nat)
  /-- Not a number, and every operation on it fails. -/
  | signalingNan (payload : Nat)
deriving DecidableEq

/-- A signed numeral without a finite value. -/
structure NonFinite where
  /-- The sign. -/
  negative : Bool
  /-- What is signed. -/
  kind : Special
deriving DecidableEq

/-- What may be written where a decimal is expected. -/
inductive Numeral where
  /-- A finite decimal. -/
  | finite (d : Decimal)
  /-- An infinity or a "not a number". -/
  | special (x : NonFinite)
deriving DecidableEq

namespace Special

/-- A payload is written behind the word, and only if there is one. -/
def payloadText (payload : Nat) : String := if payload = 0 then "" else (Decimal.ofInt payload).text

/-- The text without a sign. -/
def text : Special → String
  | .infinity => "Infinity"
  | .quietNan payload => "NaN" ++ payloadText payload
  | .signalingNan payload => "sNaN" ++ payloadText payload

end Special

/-- The text of a signed numeral without a finite value. -/
def NonFinite.text (x : NonFinite) : String := (if x.negative then "-" else "") ++ x.kind.text

/-- The text of a numeral. -/
def Numeral.text : Numeral → String
  | .finite d => d.text
  | .special x => x.text

end ChainedDecimal
