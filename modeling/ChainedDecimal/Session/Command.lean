import ChainedDecimal.Bracket.View
import ChainedDecimal.Calculator
import ChainedDecimal.Closure.Chain

/-!
# Commands

What can be asked of a session. A command that acts on something names it; scopes, chains, groups,
pools and traces are named by their kind and by the order in which they were created.

A name may be wrong, a call may be one that there is not, and a numeral may be unreadable. All these
are requests that a session has to answer, and what it shows beside the fault depends on how much of
the request was understood.
-/

namespace ChainedDecimal

namespace Session

/-- What can be asked of a scope. -/
inductive ScopeRequest where
  | call (c : Bracket.Call)
  | result
  | shown
  /-- Something that cannot be understood, with the reason. -/
  | refused (why : Fault)

/-- What can be asked of a chain with callables. -/
inductive ChainRequest where
  /-- A new chain, joined with an operand. -/
  | join (op : BinaryOp) (operand : Closure.Operand) (scale : Argument)
  | change (op : UnaryOp) (scale : Argument)
  | result
  /-- Something that cannot be understood, with the reason. -/
  | refused (why : Fault)

/-- What can be asked of a group that stands alone. -/
inductive GroupRequest where
  | join (op : BinaryOp) (operand : Closure.Operand) (scale : Argument)
  | act (a : Closure.Act)
  | shown
  /-- Something that cannot be understood, with the reason. -/
  | refused (why : Fault)

/-- What can be asked of a trace that stands alone. -/
inductive TraceRequest where
  | operand (x : Argument)
  | binary (op : Operator) (operand scale : Argument)
  | unary (op : Operator) (scale : Argument) (position : Int)
  | openGroup (op : Operator)
  | closeGroup (op : Operator) (scale : Argument)
  | group (op : Operator) (formula : String) (scale : Argument)
  /-- Something that cannot be understood, with the reason. -/
  | refused (why : Fault)

/-- What can be asked of a pool. -/
inductive PoolRequest where
  | get (x : Argument)
  | clear
  | shown
  /-- Something that cannot be understood, with the reason. -/
  | refused (why : Fault)

/-- A pool to be created. -/
inductive PoolSort where
  | plain
  | disabled
  /-- A pool that keeps entries, by a policy that is standard where nothing is given. -/
  | keeping (maxScale bound : Option Int)
  /-- Something that cannot be understood, with the reason. -/
  | refused (why : Fault)

/-- What is to be installed as the pool. -/
inductive Installation where
  /-- Nothing, which means a pool that keeps nothing. -/
  | nothing
  | named (name : String)
  /-- Something that is not a pool. -/
  | other (x : Argument)

/-- What can be asked of the settings. -/
inductive SettingsRequest where
  | install (pool : Installation)
  | clearPool
  | setTracing (enabled : Bool)
  | reset
  | show
  /-- Something that cannot be understood, with the reason. -/
  | refused (why : Fault)

/-- What can be asked of a session. Where a name may be left out, the scope of the latest answer or
the latest chain is meant. -/
inductive Command where
  | beginBracket (initial : Argument)
  | scope (on : Option String) (request : ScopeRequest)
  | beginChain (initial : Argument)
  | newChain (value : Numeral) (formula : Option String)
  | chain (on : Option String) (request : ChainRequest)
  | compareChains (a b : String)
  | newGroup (traced : Bool)
  | group (on : String) (request : GroupRequest)
  | evaluate (script : Closure.Script) (traced : Bool)
  | newTrace (initial : Argument)
  | trace (on : String) (request : TraceRequest)
  | report (engine formula : String) (result : Argument)
  | newPool (sort : PoolSort)
  | pool (on : String) (request : PoolRequest)
  | setVariables (changes : List (String × Option String))
  | settings (request : SettingsRequest)
  | calculate (c : Calculator.Call)
  /-- Something that cannot be understood, with the reason. -/
  | refused (why : Fault)

end Session

end ChainedDecimal
