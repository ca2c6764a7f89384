import ChainedDecimal.Proofs.Bracket.Views

/-!
# Calls one after the other

`walk` carries out calls on whatever scope is exposed, up to the first that fails. A list of calls
that is put together from two is walked through in two parts, so that what a part does can be proved
for whatever comes behind it.

## Staying inside a scope

`Inside c d` says that `d` came from `c` without leaving the scope that is exposed in `c`: the
scopes around it are as they were, each with its operator, and so is everything that was closed.
Seen from outside the only difference is in that scope and in the scopes that are new.
-/

namespace ChainedDecimal

namespace Bracket

namespace Chain

/-- What walking through some calls comes to. -/
structure Walk where
  /-- The values of the exposed scope after each call, where it has one. -/
  values : List Decimal
  /-- The chain at the end, or before the call that failed. -/
  last : Chain
  /-- Why the walk ended early. -/
  fault : Option Fault

/-- Carries out calls on the exposed scope, up to the first that fails. -/
def walk (c : Chain) : List Call → Walk
  | [] => ⟨[], c, none⟩
  | call :: calls =>
    match c.act call with
    | .error f => ⟨[], c, some f⟩
    | .ok c' => { c'.walk calls with values := c'.exposed.value.toList ++ (c'.walk calls).values }

variable {c c' d : Chain} {call : Call} {calls : List Call} {vs : List Decimal} {f : Fault}

@[simp] theorem walk_nil (c : Chain) : c.walk [] = ⟨[], c, none⟩ := rfl

theorem walk_cons_error (h : c.act call = .error f) : c.walk (call :: calls) = ⟨[], c, some f⟩ := by
  rw [walk, h]

theorem walk_cons_ok (h : c.act call = .ok c') :
    c.walk (call :: calls) =
      { c'.walk calls with values := c'.exposed.value.toList ++ (c'.walk calls).values } := by
  rw [walk, h]

/-- Calls behind others are walked through from where these lead to, unless one of them fails. -/
theorem walk_append (c : Chain) (calls more : List Call) :
    c.walk (calls ++ more) =
      match (c.walk calls).fault with
      | some _ => c.walk calls
      | none => { (c.walk calls).last.walk more with
          values := (c.walk calls).values ++ ((c.walk calls).last.walk more).values } := by
  induction calls generalizing c with
  | nil => rfl
  | cons call calls ih =>
    cases hact : c.act call with
    | error f => rw [List.cons_append, walk_cons_error hact, walk_cons_error hact]
    | ok c' =>
      rw [List.cons_append, walk_cons_ok hact, walk_cons_ok hact, ih]
      cases (c'.walk calls).fault with
      | some f => rfl
      | none => rw [List.append_assoc]

theorem walk_append_of_ok (h : c.walk calls = ⟨vs, c', none⟩) (more : List Call) :
    c.walk (calls ++ more) = { c'.walk more with values := vs ++ (c'.walk more).values } := by
  rw [walk_append, h]

theorem walk_append_of_fault (h : c.walk calls = ⟨vs, d, some f⟩) (more : List Call) :
    c.walk (calls ++ more) = ⟨vs, d, some f⟩ := by
  rw [walk_append, h]

/-! ## Inside a scope -/

/-- The second chain came from the first without leaving the exposed scope. -/
structure Inside (c d : Chain) : Prop where
  /-- The scope is exposed or covered, and what encloses it is the same. -/
  enclosing_eq : (d.exposed.id = c.exposed.id ∧ d.enclosing = c.enclosing) ∨
    ∃ inner w, d.enclosing = inner ++ w :: c.enclosing ∧ w.scope.id = c.exposed.id
  /-- What was closed is kept. -/
  closed_prefix : c.closed <+: d.closed

namespace Inside

protected theorem refl (c : Chain) : c.Inside c := ⟨Or.inl ⟨rfl, rfl⟩, List.prefix_refl _⟩

/-- A nested scope is inside the scope that it was opened in. -/
theorem of_opened {op : Operator} {s : Option Int} {v : Option Decimal}
    (h : (c.opened op s v).Inside d) : c.Inside d := by
  refine ⟨Or.inr ?_, h.closed_prefix⟩
  rcases h.enclosing_eq with ⟨-, henc⟩ | ⟨inner, w, henc, -⟩
  · exact ⟨[], ⟨c.exposed, op, s⟩, henc, rfl⟩
  · refine ⟨inner ++ [w], ⟨c.exposed, op, s⟩, ?_, rfl⟩
    rw [henc, List.append_assoc]
    rfl

/-- Only the number of the exposed scope and what is around it say where the inside is. -/
theorem of_same (h : c'.Inside d) (hid : c'.exposed.id = c.exposed.id)
    (henc : c'.enclosing = c.enclosing) (hclosed : c.closed <+: c'.closed) : c.Inside d := by
  refine ⟨?_, hclosed.trans h.closed_prefix⟩
  rw [← hid, ← henc]
  exact h.enclosing_eq

/-- The open scopes around the exposed one are the last of the open scopes. -/
theorem exists_shift (h : c.Inside d) :
    ∃ m, d.enclosing.length = m + c.enclosing.length ∧
      (∀ n : Nat, d.openIds[m + n]? = c.openIds[n]?) ∧
      ∀ n : Nat, d.enclosing[m + n]? = c.enclosing[n]? := by
  have hids : ∀ e : Chain, e.openIds = e.exposed.id :: e.enclosing.map (·.scope.id) := by
    intro e
    simp [openIds, openScopes]
  rcases h.enclosing_eq with ⟨hid, henc⟩ | ⟨inner, w, henc, hid⟩
  · refine ⟨0, by rw [henc, Nat.zero_add], fun n ↦ ?_, fun n ↦ ?_⟩
    · rw [hids, hids, hid, henc, Nat.zero_add]
    · rw [henc, Nat.zero_add]
  -- The new scopes come first; the scope itself is among the enclosing ones now.
  · refine ⟨inner.length + 1, ?_, fun n ↦ ?_, fun n ↦ ?_⟩
    · rw [henc, List.length_append, List.length_cons]
      omega
    · have hsplit : d.openIds = (d.exposed.id :: inner.map (·.scope.id)) ++ c.openIds := by
        rw [hids d, hids c, henc, List.map_append, List.map_cons, hid]
        rfl
      rw [hsplit, List.getElem?_append_right]
      · simp
      · simp
    · have hsplit : d.enclosing = (inner ++ [w]) ++ c.enclosing := by
        rw [henc, List.append_assoc]
        rfl
      rw [hsplit, List.getElem?_append_right]
      · simp
      · simp

/-- Seen from outside nothing has changed. -/
theorem view?_eq (h : c.Inside d) (hc : c.WellNested) (hd : d.WellNested) {id : Nat} {v : View}
    (hid : c.exposed.id ≠ id) (hv : c.view? id = some v) : d.view? id = some v := by
  rcases hc.view?_cases hv with ⟨n, hn, hview⟩ | ⟨x, hx, rfl, rfl⟩
  · cases n with
    | zero =>
      have hzero : c.openIds[0]? = some c.exposed.id := rfl
      rw [hzero, Option.some.injEq] at hn
      exact absurd hn hid
    | succ n =>
      -- An enclosing scope has moved back by some positions, and its neighbours with it.
      obtain ⟨m, hlength, hopen, henclosing⟩ := h.exists_shift
      obtain ⟨w, hw, rfl⟩ := Option.map_eq_some_iff.1 hview
      have hn' : d.openIds[m + n + 1]? = some id := by rw [Nat.add_assoc, hopen, hn]
      have hw' : d.enclosing[m + n]? = some w := by rw [henclosing, hw]
      have hlen : d.enclosing.length - (m + n + 1) = c.enclosing.length - (n + 1) := by
        rw [hlength]
        omega
      rw [hd.view?_of_open hn', openView, hw', Option.map_some, hlen, Nat.add_assoc m n 2,
        hopen, hopen]
  · exact hd.view?_of_closed (h.closed_prefix.subset hx)

end Inside

end Chain

end Bracket

end ChainedDecimal
