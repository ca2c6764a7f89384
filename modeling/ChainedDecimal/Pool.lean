import ChainedDecimal.Argument
import ChainedDecimal.Decimal.Arithmetic

/-!
# Pools

Results repeat, so each passes through a pool, which answers with a decimal of the same value. A
pool that keeps nothing answers with the result itself. A pool that keeps entries answers with a
reduced form, and with the very entry that it answered with before.

## What is kept

A policy says how many digits after the point an entry may have and within which bounds it has to
lie. The bounds themselves are not kept: a result that equals one is answered by the plain integer.
A result with more digits, or beyond the bounds, is answered by its reduced form and not kept
either.

## Representation

The entries are a list in the order in which they were kept. They are pairwise different numbers,
and an entry is found by its value, so of two zeros with different signs the first one kept answers
for both.
-/

namespace ChainedDecimal

/-- Which results a pool keeps. -/
structure PoolPolicy where
  /-- An entry has at most this many digits after the point. -/
  maxScale : Nat
  /-- An entry lies strictly between this bound and its negation. -/
  bound : Nat
  /-- There is something between the bounds. -/
  bound_pos : 0 < bound
deriving DecidableEq

namespace PoolPolicy

/-- Three digits after the point, and less than ten thousand. -/
def standard : PoolPolicy := ⟨3, 10000, by decide⟩

/-- The policy of a number of digits and a bound, if there is one. The digits are checked first. -/
def ofInts (maxScale bound : Int) : Except Fault PoolPolicy :=
  if maxScale < 0 then .error (.negativeMaxScale maxScale)
  else if h : 0 < bound then .ok ⟨maxScale.toNat, bound.toNat, by omega⟩
  else .error (.unusableBound bound)

/-- The upper bound. -/
def upper (p : PoolPolicy) : Decimal := .ofInt p.bound

/-- The lower bound. -/
def lower (p : PoolPolicy) : Decimal := .ofInt (-p.bound)

end PoolPolicy

/-- A pool that keeps entries. -/
structure KeepingPool where
  /-- Which results are kept. -/
  policy : PoolPolicy
  /-- What has been kept, oldest first. -/
  entries : List Decimal
deriving DecidableEq

namespace KeepingPool

/-- A pool in which nothing is kept yet. -/
def new (policy : PoolPolicy) : KeepingPool := ⟨policy, []⟩

/-- The number of entries. -/
def size (p : KeepingPool) : Nat := p.entries.length

/-- The entry of the same value. -/
def find? (p : KeepingPool) (d : Decimal) : Option Decimal := p.entries.find? (Decimal.sameValue d)

/-- Keeps a decimal unless there is an entry of the same value, and answers with the entry. -/
def keep (p : KeepingPool) (d : Decimal) : Decimal × KeepingPool :=
  match p.find? d with
  | some e => (e, p)
  | none => (d, { p with entries := p.entries ++ [d] })

/-- The answer for a reduced decimal. -/
def place (p : KeepingPool) (d : Decimal) : Decimal × KeepingPool :=
  if (p.policy.maxScale : Int) < -d.exp then (d, p)
  else
    match d.compareValue p.policy.upper with
    | .eq => (p.policy.upper, p)
    | .gt => (d, p)
    | .lt =>
      match d.compareValue p.policy.lower with
      | .eq => (p.policy.lower, p)
      | .lt => (d, p)
      | .gt => p.keep d

/-- The answer for a result. -/
def get (p : KeepingPool) (d : Decimal) : Except Fault (Decimal × KeepingPool) :=
  d.normalize.map p.place

/-- Drops all entries. -/
def clear (p : KeepingPool) : KeepingPool := { p with entries := [] }

/-- A pool as shown to a reader. -/
def shown (p : KeepingPool) : String :=
  "DefaultDecimalPool(PoolConfig(max_scale=" ++ intText p.policy.maxScale ++ ", bound=" ++
    intText p.policy.bound ++ "), entries=" ++ intText p.size ++ ")"

end KeepingPool

/-- The pools that can be installed. -/
inductive Pool where
  /-- The plainest pool, which keeps nothing. -/
  | plain
  /-- A pool that says of itself that it keeps nothing. -/
  | disabled
  /-- A pool that keeps entries. -/
  | keeping (p : KeepingPool)
deriving DecidableEq

namespace Pool

/-- The name of a pool's sort. -/
def sort : Pool → String
  | .plain => "DecimalPool"
  | .disabled => "NoOpDecimalPool"
  | .keeping _ => "DefaultDecimalPool"

/-- The number of entries, for a pool that can have some. -/
def size? : Pool → Option Nat
  | .keeping p => some p.size
  | _ => none

/-- The answer for a result. -/
def get : Pool → Decimal → Except Fault (Decimal × Pool)
  | .keeping p, d => (p.get d).map fun (e, p) ↦ (e, .keeping p)
  | p, d => .ok (d, p)

/-- Drops all entries. -/
def clear : Pool → Pool
  | .keeping p => .keeping p.clear
  | p => p

/-- A pool as shown to a reader. -/
def shown : Pool → String
  | .keeping p => p.shown
  | p => p.sort

/-- Why a pool that keeps entries has no answer for a numeral without a finite value: a signaling
"not a number" cannot be reduced, and the others have no exponent. -/
def nonFiniteFault (x : NonFinite) : Fault :=
  match x.kind with
  | .signalingNan _ => .invalidOperation
  | _ => .noExponent

/-- The answer for any numeral. -/
def getNumeral : Pool → Numeral → Except Fault (Numeral × Pool)
  | p, .finite d => (p.get d).map fun (e, p) ↦ (.finite e, p)
  | .keeping _, .special x => .error (nonFiniteFault x)
  | p, .special x => .ok (.special x, p)

/-- The answer for whatever a caller hands over. A pool that keeps nothing hands it back. A pool
that keeps entries answers numerals, and nothing with nothing; of everything else it asks for a
reduced form, and there is none. -/
def answer : Pool → Argument → Except Fault (Argument × Pool)
  | p, .decimal d => (p.getNumeral (.finite d)).map fun (y, p) ↦ (.ofNumeral y, p)
  | p, .special x => (p.getNumeral (.special x)).map fun (y, p) ↦ (.ofNumeral y, p)
  | .keeping p, .absent => .ok (.absent, .keeping p)
  | .keeping _, x => .error (.noReducedForm x.typeName)
  | p, x => .ok (x, p)

@[simp] theorem getNumeral_finite (p : Pool) (d : Decimal) :
    p.getNumeral (.finite d) = (p.get d).map fun (e, p) ↦ (.finite e, p) := by
  cases p <;> rfl

/-- A decimal that is handed over directly is answered as a result is. -/
theorem answer_decimal (p : Pool) (d : Decimal) :
    p.answer (.decimal d) = (p.get d).map fun (e, p) ↦ (.decimal e, p) := by
  simp only [answer, getNumeral_finite]
  cases p.get d <;> rfl

end Pool

end ChainedDecimal
