import ChainedDecimal.Proofs.Bracket.Walk

/-!
# What bracketed steps mean

The steps of a scope are plain calls and groups, and a group is again a list of steps. `eval` gives
them the meaning that a reader would, by recursion on how they are nested: a group is evaluated
first, and what it gives is combined with the value that its scope had. A chain gets there in
another way. The operator of a group is put aside when the group is opened, and taken up again when
it is closed, any number of calls later.

## The proof

The steps are walked through in whatever chain, with the value of the exposed scope for a start. The
induction is on the steps. For a group the inner steps are walked through in the chain with one more
enclosing scope; that they come back with this scope unchanged, and the operator still waiting
there, is part of what is proved of them.
-/

namespace ChainedDecimal

/-- An operand as it stands in a formula, which is the decimal that was made of it. -/
def Argument.settled (a : Argument) : Argument :=
  match a.toDecimal with
  | .ok x => .decimal x
  | .error _ => a

namespace Bracket

/-- The steps of a scope, in order. -/
inductive Steps where
  /-- No more steps. -/
  | done
  /-- A value is joined with an operand. -/
  | binary (op : BinaryOp) (operand scale : Argument) (rest : Steps)
  /-- A value is changed. -/
  | unary (op : UnaryOp) (scale : Argument) (rest : Steps)
  /-- A group is opened, gets an operand unless that is absent and steps of its own, and is closed.
  -/
  | group (op : Operator) (operand scale : Argument) (inner rest : Steps)

namespace Steps

/-- The calls that the steps are made of. -/
def calls : Steps → List Call
  | .done => []
  | .binary op operand scale rest => .binary op operand scale :: rest.calls
  | .unary op scale rest => .unary op scale :: rest.calls
  | .group op operand scale inner rest =>
    .openGroup op operand scale :: (inner.calls ++ .close :: rest.calls)

/-! ## The meaning -/

/-- The value joined with an operand. The operand is looked at before the value. -/
def joined (op : BinaryOp) (operand scale : Argument) (v : Option Decimal) : Except Fault Decimal :=
  do
    let x ← operand.toDecimal
    let left ← Fault.require (.scopeWithoutValue (.binary op)) v
    op.apply left x scale

/-- The value changed. -/
def changed (op : UnaryOp) (scale : Argument) (v : Option Decimal) : Except Fault Decimal := do
  let value ← Fault.require (.scopeWithoutValue (.unary op)) v
  op.apply value scale

/-- The scale of a group, which only divisions and roundings take. -/
def groupScale : Operator → Argument → Except Fault (Option Int)
  | .binary .divide, scale | .unary .round, scale => scale.toScale?
  | _, _ => .ok none

/-- The value that a scope has after a group, given what it had and what the group gave. -/
def grouped : Operator → Option Int → Option Decimal → Option Decimal → Except Fault Decimal
  | .binary .divide, none, _, _ => .error (.missingScale (.binary .divide))
  | .unary .round, none, _, _ => .error (.missingScale (.unary .round))
  | _, _, _, none => .error .closedWithoutValue
  | .plain, _, _, some v => .ok v
  | .unary .negate, _, _, some v => v.negate
  | .unary .absolute, _, _, some v => v.absolute
  | .unary .round, some scale, _, some v => v.round scale
  | .binary .add, _, old, some v => (old.getD .zero).add v
  | .binary .subtract, _, old, some v => (old.getD .zero).subtract v
  | .binary .multiply, _, old, some v => (old.getD .zero).multiply v
  | .binary .divide, some scale, old, some v => (old.getD .zero).divide v scale

/-- The value of a scope after the steps, given the one before. -/
def eval : Steps → Option Decimal → Except Fault (Option Decimal)
  | .done, v => .ok v
  | .binary op operand scale rest, v => do
    let w ← joined op operand scale v
    rest.eval (some w)
  | .unary op scale rest, v => do
    let w ← changed op scale v
    rest.eval (some w)
  | .group op operand scale inner rest, v => do
    let s ← groupScale op scale
    let first ← operand.toDecimal?
    let nested ← inner.eval first
    let w ← grouped op s v nested
    rest.eval (some w)

/-- The values that the scope and the groups in it have on the way, up to the step that fails. -/
def trail : Steps → Option Decimal → List Decimal
  | .done, _ => []
  | .binary op operand scale rest, v =>
    match joined op operand scale v with
    | .error _ => []
    | .ok w => w :: rest.trail (some w)
  | .unary op scale rest, v =>
    match changed op scale v with
    | .error _ => []
    | .ok w => w :: rest.trail (some w)
  | .group op operand scale inner rest, v =>
    match groupScale op scale, operand.toDecimal? with
    | .ok s, .ok first =>
      first.toList ++ (inner.trail first ++
        match (inner.eval first).bind (grouped op s v) with
        | .error _ => []
        | .ok w => w :: rest.trail (some w))
    | _, _ => []

section

variable {op : Operator} {operand scale : Argument} {inner rest : Steps} {s : Option Int}
  {first v : Option Decimal}

/-- What a group means once it is opened. -/
theorem eval_group (hs : groupScale op scale = .ok s) (hfirst : operand.toDecimal? = .ok first) :
    (group op operand scale inner rest).eval v =
      (inner.eval first).bind fun nested ↦
        (grouped op s v nested).bind fun w ↦ rest.eval (some w) := by
  rw [eval, hs, hfirst]
  rfl

theorem trail_group (hs : groupScale op scale = .ok s) (hfirst : operand.toDecimal? = .ok first) :
    (group op operand scale inner rest).trail v =
      first.toList ++ (inner.trail first ++
        match (inner.eval first).bind (grouped op s v) with
        | .error _ => []
        | .ok w => w :: rest.trail (some w)) := by
  rw [trail, hs, hfirst]

end

/-- A missing value counts as zero where a group is subtracted. -/
example : (group (.binary .subtract) (.int 2) .absent
    (.binary .multiply (.int 3) .absent .done) .done).eval none = .ok (some (.ofInt (-6))) := rfl

/-- That a scale is missing is found when the group is closed, behind the faults of its steps. -/
example (v : Option Decimal) : (group (.binary .divide) .absent .absent
    (.unary .negate .absent .done) .done).eval v =
      .error (.scopeWithoutValue (.unary .negate)) := rfl

/-- What the steps record in a trace, where the text of the scope starts at a mark. -/
def record : Steps → Nat → Trace → Trace
  | .done, _, t => t
  | .binary op operand scale rest, start, t =>
    rest.record start (t.binary op operand.settled scale)
  | .unary op scale rest, start, t => rest.record start (t.unary op scale start)
  | .group op operand scale inner rest, start, t =>
    let first := operand.toDecimal?.toOption.join
    let nested := inner.record (t.openGroup op).mark (Chain.openedTrace op first t)
    rest.record start (nested.closeGroup op scale)

end Steps

/-! ## The same in terms of the chain -/

theorem groupScale_eq_openingScale (op : Operator) (scale : Argument) :
    Steps.groupScale op scale = Chain.openingScale op scale := by
  cases op with
  | plain => rfl
  | binary op => cases op <;> rfl
  | unary op => cases op <;> rfl

theorem grouped_eq_foldGroup (op : Operator) (s : Option Int) (old nested : Option Decimal) :
    Steps.grouped op s old nested = foldGroup op s old nested := by
  cases op with
  | plain => cases s <;> cases nested <;> simp [Steps.grouped, foldGroup, Operator.needsScale]
  | binary op =>
    cases op <;> cases s <;> cases nested <;>
      simp [Steps.grouped, foldGroup, Operator.needsScale, BinaryOp.needsScale, BinaryOp.apply,
        Argument.ofInt?, Except.bind]
  | unary op =>
    cases op <;> cases s <;> cases nested <;>
      simp [Steps.grouped, foldGroup, Operator.needsScale, UnaryOp.needsScale, UnaryOp.apply,
        Argument.ofInt?, Except.bind]

/-- The text that closes a group shows the scale that was given. -/
theorem closeText_of_groupScale {op : Operator} {scale : Argument} {s : Option Int}
    (hs : Steps.groupScale op scale = .ok s) : op.closeText (.ofInt? s) = op.closeText scale := by
  have hscale : scale.toScale? = .ok s → Argument.ofInt? s = scale := by
    intro h
    cases scale <;> cases h <;> rfl
  cases op with
  | plain => rfl
  | binary op =>
    cases op with
    | divide => rw [hscale hs]
    | _ => simp only [Operator.closeText]
  | unary op =>
    cases op with
    | round => rw [hscale hs]
    | _ => simp only [Operator.closeText]

theorem closeGroup_of_groupScale {op : Operator} {scale : Argument} {s : Option Int}
    (hs : Steps.groupScale op scale = .ok s) (t : Trace) :
    t.closeGroup op (.ofInt? s) = t.closeGroup op scale := by
  rw [Trace.closeGroup, closeText_of_groupScale hs, Trace.closeGroup]

namespace Chain

variable {c d : Chain}

/-- The chain in which the exposed scope has another value, more scopes are closed, and the trace
has grown. -/
def completed (c : Chain) (v : Option Decimal) (more : List Scope) (g : Trace → Trace) : Chain where
  exposed := { c.exposed with value := v }
  enclosing := c.enclosing
  closed := c.closed ++ more
  trace := c.trace.map g

@[simp] theorem exposed_value_completed (c : Chain) (v : Option Decimal) (more : List Scope)
    (g : Trace → Trace) : (c.completed v more g).exposed.value = v := rfl

@[simp] theorem exposed_value_opened (c : Chain) (op : Operator) (s : Option Int)
    (v : Option Decimal) : (c.opened op s v).exposed.value = v := rfl

theorem completed_completed (c : Chain) (v v' : Option Decimal) (more more' : List Scope)
    (g g' : Trace → Trace) :
    (c.completed v more g).completed v' more' g' = c.completed v' (more ++ more') (g' ∘ g) := by
  simp [completed]

theorem Inside.of_completed {v : Option Decimal} {more : List Scope} {g : Trace → Trace}
    (h : (c.completed v more g).Inside d) : c.Inside d :=
  h.of_same rfl rfl (List.prefix_append _ _)

theorem act_binary (c : Chain) (op : BinaryOp) (operand scale : Argument) :
    c.act (.binary op operand scale) =
      (Steps.joined op operand scale c.exposed.value).map fun w ↦
        c.completed (some w) [] fun t ↦ t.binary op operand.settled scale := by
  simp only [act, binary, Steps.joined, Argument.settled]
  cases operand.toDecimal with
  | error f => rfl
  | ok x =>
    cases c.exposed.value with
    | none => rfl
    | some left =>
      show (op.apply left x scale).bind _ = (op.apply left x scale).map _
      cases op.apply left x scale with
      | error f => rfl
      | ok w => simp [Except.bind, Except.map, completed, withValue, recording, pure, Except.pure]

theorem act_unary (c : Chain) (op : UnaryOp) (scale : Argument) :
    c.act (.unary op scale) =
      (Steps.changed op scale c.exposed.value).map fun w ↦
        c.completed (some w) [] fun t ↦ t.unary op scale c.exposed.start := by
  simp only [act, unary, Steps.changed]
  cases c.exposed.value with
  | none => rfl
  | some v =>
    show (op.apply v scale).bind _ = (op.apply v scale).map _
    cases op.apply v scale with
    | error f => rfl
    | ok w => simp [Except.bind, Except.map, completed, withValue, recording, pure, Except.pure]

theorem act_openGroup (c : Chain) (op : Operator) (operand scale : Argument) :
    c.act (.openGroup op operand scale) =
      (Steps.groupScale op scale).bind fun s ↦ operand.toDecimal?.map (c.opened op s) := by
  rw [groupScale_eq_openingScale, act, openGroup]
  cases openingScale op scale with
  | error e => rfl
  | ok s => cases operand.toDecimal? <;> rfl

/-- Closing the group that was opened in a chain gives the chain another value. -/
theorem act_close_of_opened (c : Chain) (op : Operator) (s : Option Int)
    (first nested : Option Decimal) (more : List Scope) (g : Trace → Trace) :
    ((c.opened op s first).completed nested more g).act .close =
      (Steps.grouped op s c.exposed.value nested).map
        (((c.opened op s first).completed nested more g).closedInto ⟨c.exposed, op, s⟩
          c.enclosing) := by
  rw [grouped_eq_foldGroup]
  rfl

/-- Opening a group, walking through its steps and closing it changes the value of the scope, closes
what was opened, and records the steps between the texts of the group. -/
theorem closedInto_of_opened (c : Chain) {op : Operator} {operand scale : Argument} {s : Option Int}
    {first nested : Option Decimal} (hs : Steps.groupScale op scale = .ok s)
    (hfirst : operand.toDecimal? = .ok first) (inner : Steps) (more : List Scope) (w : Decimal) :
    ∃ more', ((c.opened op s first).completed nested more
        (inner.record (c.opened op s first).exposed.start)).closedInto
          ⟨c.exposed, op, s⟩ c.enclosing w =
      c.completed (some w) more' fun t ↦
        (inner.record (t.openGroup op).mark
          (openedTrace op operand.toDecimal?.toOption.join t)).closeGroup op scale := by
  refine ⟨more ++ [⟨c.size, nested, openedMark op c.trace⟩], ?_⟩
  have hjoin : operand.toDecimal?.toOption.join = first := by
    rw [hfirst]
    cases first <;> rfl
  rw [hjoin]
  have htrace : ∀ t : Trace, t.closeGroup op (.ofInt? s) = t.closeGroup op scale :=
    closeGroup_of_groupScale hs
  cases hc : c.trace with
  | none => simp [closedInto, completed, opened, hc]
  | some t => simp [closedInto, completed, opened, hc, openedMark, htrace]

end Chain

/-! ## Steps and walks -/

/-- The walk is what the steps mean in a chain: it goes through their values, and ends with their
value in the exposed scope, or with their fault and somewhere inside that scope. -/
def Steps.Realized (f : Steps) (c : Chain) (w : Chain.Walk) : Prop :=
  match f.eval c.exposed.value with
  | .ok v => ∃ more, w =
      ⟨f.trail c.exposed.value, c.completed v more (f.record c.exposed.start), none⟩
  | .error e => ∃ d, w = ⟨f.trail c.exposed.value, d, some e⟩ ∧ c.Inside d

variable {f rest : Steps} {c d : Chain} {w : Chain.Walk} {e : Fault} {vs : List Decimal}

theorem Steps.Realized.of_fault (heval : f.eval c.exposed.value = .error e)
    (htrail : f.trail c.exposed.value = vs) (hin : c.Inside d) :
    f.Realized c ⟨vs, d, some e⟩ := by
  rw [Steps.Realized, heval]
  exact ⟨d, by rw [htrail], hin⟩

/-- The first step and the walk through the others make a walk through all of them. -/
theorem Steps.Realized.of_step {x : Option Decimal} {more : List Scope} {g : Trace → Trace}
    (heval : f.eval c.exposed.value = rest.eval x)
    (htrail : f.trail c.exposed.value = vs ++ rest.trail x)
    (hrecord : f.record c.exposed.start = rest.record c.exposed.start ∘ g)
    (h : rest.Realized (c.completed x more g) w) :
    f.Realized c { w with values := vs ++ w.values } := by
  rw [Steps.Realized, Chain.exposed_value_completed] at h
  rw [Steps.Realized, heval, htrail]
  cases hx : rest.eval x with
  | error e =>
    rw [hx] at h
    obtain ⟨d, rfl, hin⟩ := h
    exact ⟨d, rfl, hin.of_completed⟩
  | ok v =>
    rw [hx] at h
    obtain ⟨more', rfl⟩ := h
    exact ⟨more ++ more', by rw [Chain.completed_completed, hrecord]; rfl⟩

/-- **The calls of steps do what the steps mean.** -/
theorem Steps.walk_calls (f : Steps) (c : Chain) : f.Realized c (c.walk f.calls) := by
  induction f generalizing c with
  | done =>
    refine ⟨[], ?_⟩
    simp [calls, trail, Chain.completed, record]
  | binary op operand scale rest ih =>
    have hact := c.act_binary op operand scale
    rw [calls]
    cases hj : joined op operand scale c.exposed.value with
    | error e =>
      rw [hj] at hact
      rw [Chain.walk_cons_error hact]
      exact .of_fault (by rw [eval, hj]; rfl) (by rw [trail, hj]) (.refl c)
    | ok w =>
      rw [hj] at hact
      rw [Chain.walk_cons_ok hact]
      exact .of_step (x := some w) (by rw [eval, hj]; rfl) (by rw [trail, hj]; rfl) rfl (ih _)
  | unary op scale rest ih =>
    have hact := c.act_unary op scale
    rw [calls]
    cases hj : changed op scale c.exposed.value with
    | error e =>
      rw [hj] at hact
      rw [Chain.walk_cons_error hact]
      exact .of_fault (by rw [eval, hj]; rfl) (by rw [trail, hj]) (.refl c)
    | ok w =>
      rw [hj] at hact
      rw [Chain.walk_cons_ok hact]
      exact .of_step (x := some w) (by rw [eval, hj]; rfl) (by rw [trail, hj]; rfl) rfl (ih _)
  | group op operand scale inner rest ih_inner ih_rest =>
    have hopen := c.act_openGroup op operand scale
    rw [calls]
    cases hs : groupScale op scale with
    | error e =>
      rw [hs] at hopen
      rw [Chain.walk_cons_error hopen]
      exact .of_fault (by rw [eval, hs]; rfl) (by rw [trail, hs]) (.refl c)
    | ok s =>
      cases hfirst : operand.toDecimal? with
      | error e =>
        rw [hs, hfirst] at hopen
        rw [Chain.walk_cons_error hopen]
        exact .of_fault (by rw [eval, hs, hfirst]; rfl) (by rw [trail, hs, hfirst]) (.refl c)
      | ok first =>
        rw [hs, hfirst] at hopen
        rw [Chain.walk_cons_ok hopen]
        have hinner := ih_inner (c.opened op s first)
        rw [Realized, Chain.exposed_value_opened] at hinner
        have heval : (group op operand scale inner rest).eval c.exposed.value = _ :=
          eval_group hs hfirst
        have htrail : (group op operand scale inner rest).trail c.exposed.value = _ :=
          trail_group hs hfirst
        cases hnested : inner.eval first with
        | error e =>
          -- The nested steps fail, and the closing call is not reached.
          rw [hnested] at hinner heval htrail
          obtain ⟨d, hwalk, hin⟩ := hinner
          rw [Chain.walk_append_of_fault hwalk]
          exact .of_fault heval (by simpa [Except.bind] using htrail) hin.of_opened
        | ok nested =>
          rw [hnested] at hinner heval htrail
          obtain ⟨more, hwalk⟩ := hinner
          rw [Chain.walk_append_of_ok hwalk]
          have hclose := c.act_close_of_opened op s first nested more
            (inner.record (c.opened op s first).exposed.start)
          simp only [Except.bind] at heval htrail
          cases hg : grouped op s c.exposed.value nested with
          | error e =>
            rw [hg] at hclose heval htrail
            rw [Chain.walk_cons_error hclose]
            exact .of_fault heval htrail (Chain.Inside.refl _).of_completed.of_opened
          | ok w =>
            rw [hg] at hclose heval htrail
            obtain ⟨more', hafter⟩ := c.closedInto_of_opened hs hfirst inner more w
            rw [Except.map, hafter] at hclose
            rw [Chain.walk_cons_ok hclose]
            have hvalues : (group op operand scale inner rest).trail c.exposed.value =
                first.toList ++ (inner.trail first ++ [w]) ++ rest.trail (some w) := by
              simpa using htrail
            have hstep := Realized.of_step heval hvalues rfl
              (ih_rest (c.completed (some w) more' _))
            simpa using hstep

end Bracket

end ChainedDecimal
