import ChainedDecimal.Decimal.Text
import ChainedDecimal.Decimal.Numeral
import ChainedDecimal.Operator.Basic

/-!
# Faults

A call that cannot be carried out fails with a fault, and a fault is the cause of the failure
together with what its message has to show. A fault belongs to one of a few kinds, by which a caller
may tell unusable operands from unbalanced parentheses, and all but a few kinds say in words what
went wrong.

The words are fixed here and nowhere else: a calculation names a cause, and `message` finds the
text.
-/

namespace ChainedDecimal

/-- Why a call failed. -/
inductive Fault where
  /-- An operand was left out. -/
  | missingOperand
  /-- An operand is an infinity or a "not a number". -/
  | nonFiniteOperand (x : NonFinite)
  /-- An operand is a truth value. -/
  | truthOperand (b : Bool)
  /-- An operand is a binary floating point number of the named type. -/
  | floatingOperand (typeName : String)
  /-- An operand is of a type that is no exact number. -/
  | unusableOperand (typeName : String)
  /-- A scale is not an integer. -/
  | unusableScale (typeName : String)
  /-- A callable for a group returned something else. -/
  | notAGroup (typeName : String)
  /-- A scope was used after its parenthesis had been closed. -/
  | scopeClosed
  /-- A scope was used while a scope nested in it was open. -/
  | nestedScopeOpen
  /-- A parenthesis was closed that had not been opened. -/
  | nothingToClose
  /-- A division or rounding was closed for which no scale had been given. -/
  | missingScale (op : Operator)
  /-- A result was read while a parenthesis was open. -/
  | openScopes
  /-- A scope without a value was given an operator that needs one. -/
  | scopeWithoutValue (op : Operator)
  /-- A scope without a value was closed. -/
  | closedWithoutValue
  /-- The result of a chain without a value was read. -/
  | chainWithoutValue
  /-- A group without a value was given an operator that needs one. -/
  | groupWithoutValue (op : Operator)
  /-- A callable for a group ended without giving the group a value. -/
  | groupLeftEmpty
  /-- A step of a callable was addressed to a group beyond the outermost one. -/
  | noSuchGroup
  /-- A division by zero. -/
  | divisionByZero (dividend : Numeral) (divisor : Decimal)
  /-- A "not a number" stands on one side of a division. -/
  | nanInQuotient
  /-- An infinity stands on one side of a division. -/
  | infinityInQuotient
  /-- An operator was asked to join two operands and cannot. -/
  | notBinary (op : Operator)
  /-- An operator was asked to change one value and cannot. -/
  | notUnary (op : Operator)
  /-- The text of a binary step was asked for another operator. -/
  | noBinaryText (op : Operator)
  /-- A pool was asked to keep a negative number of digits. -/
  | negativeMaxScale (maxScale : Int)
  /-- A pool was given a bound that is not positive. -/
  | unusableBound (bound : Int)
  /-- Something that is not a pool was installed as one. -/
  | notAPool (typeName : String)
  /-- A pool was asked for the exponent of a numeral that has none. -/
  | noExponent
  /-- A pool was asked for the reduced form of something that has none. -/
  | noReducedForm (typeName : String)
  /-- A request names a call or an object that there is not. -/
  | unknownRequest
  /-- A result is beyond the largest exponent. -/
  | overflow
  /-- A result cannot be written with the digits or the exponents there are. -/
  | invalidOperation
deriving DecidableEq

/-- Outcomes can be told apart: they are the same fault, or the same answer. -/
instance {α : Type} [DecidableEq α] : DecidableEq (Except Fault α)
  | .ok a, .ok b => decidable_of_iff (a = b) (by simp)
  | .error f, .error g => decidable_of_iff (f = g) (by simp)
  | .ok _, .error _ => isFalse (by simp)
  | .error _, .ok _ => isFalse (by simp)

/-- The kinds that a caller may tell faults apart by. -/
inductive FaultKind where
  /-- An operand or a scale cannot be used. -/
  | invalidInput
  /-- An operand is missing. -/
  | missingArgument
  /-- Parentheses are not balanced, or one cannot be resolved. -/
  | invalidStructure
  /-- A value is needed and there is none. -/
  | uninitializedState
  /-- A division by zero. -/
  | divisionByZero
  /-- An argument has the right type and an unusable value. -/
  | unusableValue
  /-- An argument has the wrong type. -/
  | unusableType
  /-- A table has no such entry. -/
  | noEntry
  /-- A value has no such property. -/
  | noProperty
  /-- An infinity is out of the range of the integers. -/
  | beyondIntegers
  /-- A decimal is out of range. -/
  | overflow
  /-- A decimal operation has no answer. -/
  | invalidOperation
  /-- A request names something that does not exist. -/
  | badRequest
deriving DecidableEq

namespace FaultKind

/-- The name of a kind. -/
def name : FaultKind → String
  | .invalidInput => "InvalidInputError"
  | .missingArgument => "MissingArgumentError"
  | .invalidStructure => "InvalidStructureError"
  | .uninitializedState => "UninitializedStateError"
  | .divisionByZero => "DivisionByZeroError"
  | .unusableValue => "ValueError"
  | .unusableType => "TypeError"
  | .noEntry => "KeyError"
  | .noProperty => "AttributeError"
  | .beyondIntegers => "OverflowError"
  | .overflow => "Overflow"
  | .invalidOperation => "InvalidOperation"
  | .badRequest => "BadRequest"

end FaultKind

namespace Fault

/-- The kind of a fault. -/
def kind : Fault → FaultKind
  | .missingOperand => .missingArgument
  | .nonFiniteOperand _ | .truthOperand _ | .floatingOperand _ | .unusableOperand _
  | .unusableScale _ | .notAGroup _ => .invalidInput
  | .scopeClosed | .nestedScopeOpen | .nothingToClose | .missingScale _ | .openScopes =>
    .invalidStructure
  | .scopeWithoutValue _ | .closedWithoutValue | .chainWithoutValue | .groupWithoutValue _
  | .groupLeftEmpty => .uninitializedState
  | .divisionByZero _ _ => .divisionByZero
  | .notBinary _ | .notUnary _ | .negativeMaxScale _ | .unusableBound _ | .nanInQuotient =>
    .unusableValue
  | .notAPool _ | .noExponent => .unusableType
  | .noBinaryText _ => .noEntry
  | .noReducedForm _ => .noProperty
  | .infinityInQuotient => .beyondIntegers
  | .overflow => .overflow
  | .invalidOperation => .invalidOperation
  | .noSuchGroup | .unknownRequest => .badRequest

/-- A truth value as messages show it. -/
def truthText (b : Bool) : String := if b then "True" else "False"

/-- The words of a fault. The limits of the decimals, a missing table entry and a bad request are
told by their kind alone. -/
def message? : Fault → Option String
  | .missingOperand => some "Operand must not be None"
  | .nonFiniteOperand x => some ("Operand must be finite, got " ++ x.text)
  | .truthOperand b => some ("Boolean is not a numeric operand: " ++ truthText b)
  | .floatingOperand typeName =>
    some ("Floating point operands are not supported (" ++ typeName ++ "); use Decimal or int")
  | .unusableOperand typeName => some ("Operand must be Decimal or int, got " ++ typeName)
  | .unusableScale typeName => some ("Scale must be an int, got " ++ typeName)
  | .notAGroup typeName => some ("Group callable must return a Group, got " ++ typeName)
  | .scopeClosed =>
    some "Scope already closed: continue with the node returned by right_parenthesis()"
  | .nestedScopeOpen => some "Missing right parenthesis: nested scope is still open"
  | .nothingToClose => some "Missing left parenthesis: no open scope to close"
  | .missingScale op => some ("Missing scale for pending " ++ op.name ++ " operation")
  | .openScopes => some "Missing right parenthesis: formula has open scopes"
  | .scopeWithoutValue op => some ("Cannot " ++ op.name ++ ": scope has no value yet")
  | .closedWithoutValue => some "Cannot close parenthesis: scope has no value"
  | .chainWithoutValue => some "Chain has no value"
  | .groupWithoutValue op =>
    some ("Cannot " ++ op.name ++ ": group must be initialized with .with_(value) first")
  | .groupLeftEmpty => some "Group has no value; start it with .with_(value)"
  | .divisionByZero a b => some ("Division by zero: " ++ a.text ++ " / " ++ b.text)
  | .nanInQuotient => some "cannot convert NaN to integer ratio"
  | .infinityInQuotient => some "cannot convert Infinity to integer ratio"
  | .notBinary op => some ("Not a binary operator: Operator." ++ op.capitals)
  | .notUnary op => some ("Not a unary operator: Operator." ++ op.capitals)
  | .negativeMaxScale n => some ("max_scale must be non-negative, got " ++ intText n)
  | .unusableBound n => some ("bound must be positive, got " ++ intText n)
  | .notAPool typeName => some ("Expected DecimalPool, got " ++ typeName)
  | .noExponent => some "bad operand type for unary -: 'str'"
  | .noReducedForm typeName => some ("'" ++ typeName ++ "' object has no attribute 'normalize'")
  | .noBinaryText _ | .overflow | .invalidOperation | .noSuchGroup | .unknownRequest =>
    none

/-- The value there is, or this fault. -/
def require (f : Fault) {α : Type} : Option α → Except Fault α
  | some a => .ok a
  | none => .error f

@[simp] theorem require_some (f : Fault) {α : Type} (a : α) : f.require (some a) = .ok a := rfl

@[simp] theorem require_none (f : Fault) {α : Type} : f.require (none : Option α) = .error f := rfl

end Fault

end ChainedDecimal
