import ChainedDecimal.Event
import ChainedDecimal.Pool
import ChainedDecimal.Text.LowerCase

/-!
# Settings

All calculations share a pool for their results and a flag that says whether formulas are traced.
Both are settings: they can be changed at any time, and `reset` takes them from the environment
again.

## Pools

There is always the standard pool, and further pools may be created. Installing a pool does not
change what any pool keeps, so a pool that is installed again has the entries that it was left with.
Leaving the pool open installs one that keeps nothing and that nobody else can name.

## The environment

Two variables are looked up, and only when the settings are reset. Case does not matter. A tracing
variable that is not one of the affirmative words leaves tracing off. A pool variable that is not
one of the known choices is reported and treated as the standard choice.
-/

namespace ChainedDecimal

/-- What the environment says; a variable may be unset. -/
structure Environment where
  /-- Whether formulas are traced. -/
  trace : Option String
  /-- Which pool is installed. -/
  pool : Option String
deriving DecidableEq

/-- An environment in which nothing is set. -/
def Environment.empty : Environment := ⟨none, none⟩

/-- The name of the variable for tracing. -/
def traceVariable : String := "CALCCHAIN_TRACE"

/-- The name of the variable for the pool. -/
def poolVariable : String := "CALCCHAIN_POOL"

/-- The words that switch tracing on. -/
def affirmatives : List String := ["true", "1", "yes"]

/-- The choice of the standard pool. -/
def standardChoice : String := "default"

/-- The choice of a pool that keeps nothing. -/
def noPoolChoice : String := "none"

/-- Which pool is meant. -/
inductive PoolRef where
  /-- The standard pool. -/
  | standard
  /-- The pool created after so many others. -/
  | created (i : Nat)
  /-- A pool that keeps nothing and has no name. -/
  | unnamed
deriving DecidableEq

/-- The settings, with the pools that there are. -/
structure Settings where
  /-- What the environment says now. -/
  environment : Environment
  /-- The standard pool. -/
  standard : KeepingPool
  /-- The pools that were created, oldest first. -/
  created : List Pool
  /-- The pool that results pass through. -/
  installed : PoolRef
  /-- Whether calculations that start now are traced. -/
  tracing : Bool
deriving DecidableEq

namespace Settings

/-- The settings at the beginning. -/
def initial : Settings := ⟨.empty, .new .standard, [], .standard, false⟩

/-! ## Pools -/

/-- The pool that is meant, if it exists. -/
def pool? (s : Settings) : PoolRef → Option Pool
  | .standard => some (.keeping s.standard)
  | .created i => s.created[i]?
  | .unnamed => some .disabled

/-- The settings in which a pool is in another state. The standard pool always keeps entries, and
the unnamed one has none. -/
def setPool (s : Settings) : PoolRef → Pool → Settings
  | .standard, .keeping p => { s with standard := p }
  | .created i, p => { s with created := s.created.set i p }
  | _, _ => s

/-- The installed pool. -/
def installedPool (s : Settings) : Pool := (s.pool? s.installed).getD .disabled

/-- Passes a result through the installed pool. -/
def pooled (s : Settings) (d : Decimal) : Except Fault (Decimal × Settings) :=
  (s.installedPool.get d).map fun (e, p) ↦ (e, s.setPool s.installed p)

/-- Passes any numeral through the installed pool. -/
def pooledNumeral (s : Settings) (x : Numeral) : Except Fault (Numeral × Settings) :=
  (s.installedPool.getNumeral x).map fun (y, p) ↦ (y, s.setPool s.installed p)

@[simp] theorem pooledNumeral_finite (s : Settings) (d : Decimal) :
    s.pooledNumeral (.finite d) = (s.pooled d).map fun (e, s) ↦ (.finite e, s) := by
  simp only [pooledNumeral, pooled, Pool.getNumeral_finite]
  cases s.installedPool.get d <;> rfl

/-- Drops all entries of a pool. Only a pool that keeps entries reports it. -/
def clearPool (s : Settings) (ref : PoolRef) (p : Pool) : Settings × List Event :=
  (s.setPool ref p.clear, (p.size?.map Event.poolCleared).toList)

/-- Drops all entries of the installed pool. -/
def clearInstalled (s : Settings) : Settings × List Event :=
  s.clearPool s.installed s.installedPool

/-- Creates a pool. -/
def create (s : Settings) (p : Pool) : Settings := { s with created := s.created ++ [p] }

/-- Installs a pool that exists. -/
def install (s : Settings) (ref : PoolRef) (p : Pool) : Settings × List Event :=
  ({ s with installed := ref }, [.poolInstalled p.sort])

/-! ## Tracing and the environment -/

/-- Switches tracing on or off. -/
def setTracing (s : Settings) (enabled : Bool) : Settings × List Event :=
  ({ s with tracing := enabled }, [.traceToggled enabled])

/-- Whether an environment asks for tracing. -/
def tracingOf (e : Environment) : Bool := affirmatives.contains (lowerCase (e.trace.getD "false"))

/-- The pool that an environment asks for, and the report of a choice that is not known. -/
def poolOf (e : Environment) : PoolRef × List Event :=
  let choice := lowerCase (e.pool.getD standardChoice)
  if choice = standardChoice then (.standard, [])
  else if choice = noPoolChoice then (.unnamed, [])
  else
    (.standard,
      [.unknownPoolSetting poolVariable choice [standardChoice, noPoolChoice] standardChoice])

/-- Takes both settings from the environment. -/
def reset (s : Settings) : Settings × List Event :=
  ({ s with installed := (poolOf s.environment).1, tracing := tracingOf s.environment },
    (poolOf s.environment).2)

end Settings

end ChainedDecimal
