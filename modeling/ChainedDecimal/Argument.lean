import ChainedDecimal.Fault

/-!
# Arguments

What a caller hands over as an operand or as a scale may be anything. Only exact numbers are taken
as operands: finite decimals, integers, and objects that count as integers. A binary floating point
number is refused, so that no error of representation can enter a calculation, and so are truth
values, although they could be read as 0 and 1. A scale has to be an integer itself; an object that
merely counts as one is a good operand and no scale.

An object from outside is known by the name of its type and by its rank in the tower of number
types, where each rank includes the ones before it: integral, rational, real, complex, number.
-/

namespace ChainedDecimal

/-- Where the type of an object stands among the number types. -/
inductive Rank where
  | integral (n : Int)
  | rational
  /-- A real number that is not given as a quotient. -/
  | real
  | complex
  | number
  | other
deriving DecidableEq

/-- What a caller may hand over. -/
inductive Argument where
  | absent
  | truth (b : Bool)
  | int (n : Int)
  | decimal (d : Decimal)
  /-- An infinity or a "not a number". -/
  | special (x : NonFinite)
  | text (s : String)
  | object (typeName : String) (rank : Rank)
deriving DecidableEq

namespace Argument

/-- The name of an argument's type, as messages show it. -/
def typeName : Argument → String
  | .absent => "NoneType"
  | .truth _ => "bool"
  | .int _ => "int"
  | .decimal _ | .special _ => "Decimal"
  | .text _ => "str"
  | .object name _ => name

/-- An argument as a formula shows it. Objects are shown by their type. -/
def shown : Argument → String
  | .absent => "None"
  | .truth b => Fault.truthText b
  | .int n => intText n
  | .decimal d => d.text
  | .special x => x.text
  | .text s => s
  | .object name _ => name

/-- A numeral as an argument. -/
def ofNumeral : Numeral → Argument
  | .finite d => .decimal d
  | .special x => .special x

/-- An integer that may have been left out, as an argument. -/
def ofInt? : Option Int → Argument
  | none => .absent
  | some n => .int n

/-- The exact decimal that an operand stands for. -/
def toDecimal : Argument → Except Fault Decimal
  | .absent => .error .missingOperand
  | .decimal d => .ok d
  | .special x => .error (.nonFiniteOperand x)
  | .truth b => .error (.truthOperand b)
  | .int n => .ok (Decimal.ofInt n)
  | .object _ (.integral n) => .ok (Decimal.ofInt n)
  | .object name .real => .error (.floatingOperand name)
  | .object name _ => .error (.unusableOperand name)
  | .text s => .error (.unusableOperand (typeName (.text s)))

/-- The exact decimal of an operand that may be left out. -/
def toDecimal? : Argument → Except Fault (Option Decimal)
  | .absent => .ok none
  | a => a.toDecimal.map some

/-- The integer that a scale is. -/
def toScale : Argument → Except Fault Int
  | .int n => .ok n
  | a => .error (.unusableScale a.typeName)

/-- The integer of a scale that may be left out. -/
def toScale? : Argument → Except Fault (Option Int)
  | .absent => .ok none
  | a => a.toScale.map some

/-- An operand that is given stands for what it would stand for if it had to be given. -/
theorem toDecimal?_of_ne_absent {a : Argument} (h : a ≠ .absent) :
    a.toDecimal? = a.toDecimal.map some := by
  cases a with
  | absent => exact absurd rfl h
  | _ => rfl

theorem eq_absent_of_toDecimal? {a : Argument} (h : a.toDecimal? = .ok none) : a = .absent := by
  by_cases ha : a = .absent
  · exact ha
  · rw [toDecimal?_of_ne_absent ha] at h
    cases hx : a.toDecimal with
    | error e =>
      rw [hx] at h
      cases h
    | ok x =>
      rw [hx] at h
      cases h

@[simp] theorem toDecimal_decimal (d : Decimal) : (decimal d).toDecimal = .ok d := rfl

@[simp] theorem toDecimal_int (n : Int) : (int n).toDecimal = .ok (Decimal.ofInt n) := rfl

@[simp] theorem toScale_int (n : Int) : (int n).toScale = .ok n := rfl

end Argument

end ChainedDecimal
