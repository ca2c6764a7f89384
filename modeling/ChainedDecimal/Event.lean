import ChainedDecimal.Argument

/-!
# Events

A calculation reports what it did as events. They are a record for a reader of the log and have no
influence on what is calculated. Each event has a level, by which a reader may choose.
-/

namespace ChainedDecimal

/-- How much attention an event asks for. -/
inductive EventLevel where
  | debug
  | info
  /-- A setting that could not be used. -/
  | warning
deriving DecidableEq

/-- The name of a level. -/
def EventLevel.name : EventLevel → String
  | .debug => "debug"
  | .info => "info"
  | .warning => "warning"

/-- What may be reported. -/
inductive Event where
  /-- A result was read, of the formula shown. -/
  | formulaEvaluated (engine formula result : String)
  | poolInstalled (sort : String)
  | poolCleared (evicted : Nat)
  | traceToggled (enabled : Bool)
  /-- A setting of the environment is none of the expected ones, and another is used instead. -/
  | unknownPoolSetting (setting value : String) (expected : List String) (fallback : String)
deriving DecidableEq

/-- The level of an event. -/
def Event.level : Event → EventLevel
  | .formulaEvaluated .. | .poolCleared _ => .debug
  | .poolInstalled _ | .traceToggled _ => .info
  | .unknownPoolSetting .. => .warning

/-- The word for bracketed chains in reports. -/
def Session.bracketEngine : String := "bracket"

/-- The word for chains with callables in reports. -/
def Session.closureEngine : String := "closure"

/-- The report that a formula gave a result. -/
def Event.evaluated (engine formula : String) (result : Argument) : Event :=
  .formulaEvaluated engine (formula ++ " = " ++ result.shown) result.shown

end ChainedDecimal
