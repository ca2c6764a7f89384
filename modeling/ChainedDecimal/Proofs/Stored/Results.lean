import ChainedDecimal.Proofs.Session.Pools
import ChainedDecimal.Proofs.Stored.Calls

/-!
# Reading a result from a memory

Reading a result writes to no node. It reports the formula and asks the pool then, in this order, so
a pool that has no answer fails after something was reported.
-/

namespace ChainedDecimal

namespace Bracket

/-- The value of a whole chain, read from one of its scopes. -/
def Node.result (n : Node) : Except Fault Decimal :=
  if n.closed then .error .scopeClosed
  else if n.child.isSome || n.parent.isSome then .error .openScopes
  else Fault.require .chainWithoutValue n.value

theorem Node.value_of_result {n : Node} {v : Decimal} (h : n.result = .ok v) :
    n.value = some v := by
  unfold Node.result at h
  split at h
  · cases h
  split at h
  · cases h
  exact Fault.require_eq_ok.1 h

/-- The memory in which a formula was reported. -/
def Memory.reported (m : Memory) (formula : Option Nat) (result : Decimal) : Memory :=
  { m with events := m.events ++ ((m.formula? formula).map fun t ↦
      Event.evaluated Session.bracketEngine t.render (.decimal result)).toList }

namespace Action

variable {m : Memory} {self : Address} {n : Node}

/-- The pool answers as the settings say, and keeps what it keeps there. -/
theorem on_pooled (d : Decimal) (m : Memory) :
    (pooled d).on m = m.atomically do
      let p ← m.settings.pooled d
      return (p.1, { m with settings := p.2 }) := by
  have hget : (get : Action Memory).on m = (.ok m, m) := rfl
  have hsame := m.settings.setPool_installedPool
  rw [pooled, on_bind_ok hget, Settings.pooled]
  rcases hpool : m.settings.installedPool with _ | _ | k
  -- A pool that keeps nothing is put in the state that it is in.
  · rw [hpool] at hsame
    simp only [hpool, Pool.get, Except.map, hsame]
    rfl
  · rw [hpool] at hsame
    simp only [hpool, Pool.get, Except.map, hsame]
    rfl
  · have hreduce : (attempt d.normalize).on m = (d.normalize, m) := rfl
    simp only [hpool, Pool.get, KeepingPool.get]
    rcases hnormal : d.normalize with f | e
    · rw [hnormal] at hreduce
      exact on_bind_error hreduce _
    · rw [hnormal] at hreduce
      exact on_bind_ok hreduce _

theorem on_result (h : m.nodes[self]? = some n) :
    (result self).on m =
      match n.result with
      | .error f => (.error f, m)
      | .ok v => (pooled v).on (m.reported n.formula v) := by
  have hopen := on_checkOpen h
  have halone : (checkAlone self).on m =
      (if n.child.isSome || n.parent.isSome then .error .openScopes else .ok (), m) := by
    rw [checkAlone, on_bind_ok (on_node h)]
    cases n.child.isSome || n.parent.isSome <;> rfl
  have hvalue := on_requireValue h .chainWithoutValue
  rw [result, Node.result]
  by_cases hclosed : n.closed = true
  · rw [if_pos hclosed] at hopen ⊢
    exact on_bind_error hopen _
  rw [if_neg hclosed] at hopen ⊢
  rw [on_bind_ok hopen]
  by_cases hnested : (n.child.isSome || n.parent.isSome) = true
  · rw [if_pos hnested] at halone ⊢
    exact on_bind_error halone _
  rw [if_neg hnested] at halone ⊢
  rw [on_bind_ok halone, on_bind_ok (on_node h)]
  rcases hv : n.value with _ | v
  · rw [hv] at hvalue
    exact on_bind_error hvalue _
  · rw [hv] at hvalue
    rw [on_bind_ok hvalue]
    rfl

end Action

end Bracket

end ChainedDecimal
