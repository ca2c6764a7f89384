import ChainedDecimal.Bracket.View
import ChainedDecimal.Proofs.Alike.Basic

/-!
# Bracketed chains side by side

Two bracketed chains are alike if the same scopes are open and closed in both, the same operators
wait, and the values are alike. Nothing is said of the traces. The same calls, with alike operands,
keep chains alike, and what can be seen of their scopes and read from them is alike.
-/

namespace ChainedDecimal

variable {L : Likeness}

/-! ## Lists of alike things -/

theorem forall₂_getElem? {α β : Type} {R : α → β → Prop} {as : List α} {bs : List β}
    (h : List.Forall₂ R as bs) (i : ℕ) : Option.Rel R as[i]? bs[i]? := by
  induction h generalizing i with
  | nil => exact .none
  | cons hab _ ih =>
    match i with
    | 0 => exact .some hab
    | i + 1 => exact ih i

theorem forall₂_set {α β : Type} {R : α → β → Prop} {as : List α} {bs : List β}
    (h : List.Forall₂ R as bs) (i : ℕ) {a : α} {b : β} (hab : R a b) :
    List.Forall₂ R (as.set i a) (bs.set i b) := by
  induction h generalizing i with
  | nil => exact .nil
  | cons hhead htail ih =>
    match i with
    | 0 => exact .cons hab htail
    | i + 1 => exact .cons hhead (ih i)

theorem forall₂_concat {α β : Type} {R : α → β → Prop} {as : List α} {bs : List β} {a : α} {b : β}
    (h : List.Forall₂ R as bs) (hab : R a b) : List.Forall₂ R (as ++ [a]) (bs ++ [b]) :=
  List.rel_append h (.cons hab .nil)

theorem forall₂_tail {α β : Type} {R : α → β → Prop} {as : List α} {bs : List β}
    (h : List.Forall₂ R as bs) : List.Forall₂ R as.tail bs.tail := by
  rcases h with _ | ⟨_, htail⟩
  · exact .nil
  · exact htail

theorem map_eq_of_forall₂ {α β γ : Type} {R : α → β → Prop} {as : List α} {bs : List β}
    {f : α → γ} {g : β → γ} (h : List.Forall₂ R as bs) (hfg : ∀ a b, R a b → f a = g b) :
    as.map f = bs.map g := by
  induction h with
  | nil => rfl
  | cons hab _ ih => rw [List.map_cons, List.map_cons, hfg _ _ hab, ih]

theorem forall₂_lookup {α β : Type} {R : α → β → Prop} {as : List (ℕ × α)} {bs : List (ℕ × β)}
    (h : List.Forall₂ (fun a b ↦ a.1 = b.1 ∧ R a.2 b.2) as bs) (k : ℕ) :
    Option.Rel R (as.lookup k) (bs.lookup k) := by
  induction h with
  | nil => exact .none
  | @cons a b as bs hab _ ih =>
    obtain ⟨i, x⟩ := a
    obtain ⟨j, y⟩ := b
    obtain ⟨hij, hxy⟩ := hab
    subst hij
    rw [List.lookup_cons, List.lookup_cons]
    cases hk : k == i with
    | true => exact .some hxy
    | false => exact ih

namespace Bracket

/-! ## The operations of a call -/

/-- The operation that folds a group into its scope, if it comes to that. -/
def foldOperations (op : Operator) (scale : Option ℤ) (outer inner : Option Decimal) :
    List Operation :=
  if op.needsScale && scale.isNone then []
  else
    match inner, op with
    | none, _ | some _, .plain => []
    | some v, .unary op => [.unary op v (.ofInt? scale)]
    | some v, .binary op => [.binary op (outer.getD .zero) v (.ofInt? scale)]

/-- The operation that a call on the exposed scope carries out, if it comes to that. -/
def Chain.operations (c : Chain) : Call → List Operation
  | .binary op operand scale =>
    match operand.toDecimal, c.exposed.value with
    | .ok x, some v => [.binary op v x scale]
    | _, _ => []
  | .unary op scale => (c.exposed.value.map fun v ↦ .unary op v scale).toList
  | .openGroup _ _ _ => []
  | .close =>
    match c.enclosing with
    | [] => []
    | w :: _ => foldOperations w.pending w.scale w.scope.value c.exposed.value

/-- The operation that a call on the scope of a number carries out. -/
def Chain.callOperations (c : Chain) (id : ℕ) (call : Call) : List Operation :=
  if c.place id = .exposed then c.operations call else []

/-! ## Alike chains -/

/-- The same call, with alike operands. -/
inductive Call.Alike (L : Likeness) : Call → Call → Prop where
  | binary {op : BinaryOp} {a b scale : Argument} (operand : L.Operand a b) :
      Alike L (.binary op a scale) (.binary op b scale)
  | unary {op : UnaryOp} {scale : Argument} : Alike L (.unary op scale) (.unary op scale)
  | openGroup {op : Operator} {a b scale : Argument} (operand : L.Operand a b) :
      Alike L (.openGroup op a scale) (.openGroup op b scale)
  | close : Alike L .close .close

theorem Call.Alike.refl (c : Call) : c.Alike L c := by
  match c with
  | .binary _ operand _ => exact .binary (.refl operand)
  | .unary _ _ => exact .unary
  | .openGroup _ operand _ => exact .openGroup (.refl operand)
  | .close => exact .close

/-- The same scope, with alike values. -/
structure Scope.Alike (L : Likeness) (s t : Scope) : Prop where
  id_eq : s.id = t.id
  value : Option.Rel L.number s.value t.value

/-- The same scope with the same operator waiting. -/
structure Waiting.Alike (L : Likeness) (w u : Waiting) : Prop where
  scope : w.scope.Alike L u.scope
  pending_eq : w.pending = u.pending
  scale_eq : w.scale = u.scale

/-- What is seen of one scope is what is seen of the other. -/
structure View.Alike (L : Likeness) (v u : View) : Prop where
  value : Option.Rel L.number v.value u.value
  pending_eq : v.pending = u.pending
  scale_eq : v.scale = u.scale
  parent_eq : v.parent = u.parent
  child_eq : v.child = u.child
  depth_eq : v.depth = u.depth
  closed_eq : v.closed = u.closed

namespace Chain

/-- Chains with the same scopes and alike values. -/
structure Alike (L : Likeness) (c d : Chain) : Prop where
  exposed : c.exposed.Alike L d.exposed
  enclosing : List.Forall₂ (Waiting.Alike L) c.enclosing d.enclosing
  closed : List.Forall₂ (Scope.Alike L) c.closed d.closed

/-- Beginnings with alike operands are alike, whether they are traced or not. -/
theorem alike_begin {a b : Argument} (h : L.Operand a b) (traced traced' : Bool) :
    Fault.Rel L.fault (Alike L) (begin a traced) (begin b traced') :=
  Fault.Rel.map h fun _ _ hv ↦ ⟨⟨rfl, hv⟩, .nil, .nil⟩

theorem alike_foldGroup {op : Operator} {scale : Option ℤ}
    {outer outer' inner inner' : Option Decimal} (houter : Option.Rel L.number outer outer')
    (hinner : Option.Rel L.number inner inner')
    (hc : ∀ o ∈ foldOperations op scale outer inner, L.Covers o)
    (hc' : ∀ o ∈ foldOperations op scale outer' inner', L.Covers o) :
    Fault.Rel L.fault L.number (foldGroup op scale outer inner)
      (foldGroup op scale outer' inner') := by
  have hleft := optionRel_getD houter (L.number_refl .zero)
  unfold foldGroup
  unfold foldOperations at hc hc'
  split
  · exact .error (L.fault_refl _)
  · rename_i hscale
    rw [if_neg hscale] at hc hc'
    rcases hinner with hv | _
    · match op with
      | .plain => exact .ok hv
      | .unary op =>
        exact L.unary hv (hc _ List.mem_cons_self) (hc' _ List.mem_cons_self)
      | .binary op =>
        exact L.binary hleft hv (hc _ List.mem_cons_self) (hc' _ List.mem_cons_self)
    · exact .error (L.fault_refl _)

namespace Alike

variable {c d : Chain}

theorem size_eq (h : c.Alike L d) : c.size = d.size := by
  rw [size, size, h.enclosing.length_eq, h.closed.length_eq]

theorem binary (h : c.Alike L d) {op : BinaryOp} {a b scale : Argument} (hab : L.Operand a b)
    (hc : ∀ o ∈ c.operations (.binary op a scale), L.Covers o)
    (hd : ∀ o ∈ d.operations (.binary op b scale), L.Covers o) :
    Fault.Rel L.fault (Alike L) (c.binary op a scale) (d.binary op b scale) := by
  refine Fault.Rel.bind hab.toDecimal fun x y hx hy hxy ↦ ?_
  refine Fault.Rel.bind (Fault.Rel.require h.exposed.value (L.fault_refl _)) fun v u hv hu hvu ↦ ?_
  rw [operations, hx, Fault.require_eq_ok.1 hv] at hc
  rw [operations, hy, Fault.require_eq_ok.1 hu] at hd
  refine Fault.Rel.bind (L.binary hvu hxy (hc _ List.mem_cons_self) (hd _ List.mem_cons_self))
    fun w z _ _ hwz ↦ ?_
  exact .ok ⟨⟨h.exposed.id_eq, .some hwz⟩, h.enclosing, h.closed⟩

theorem unary (h : c.Alike L d) {op : UnaryOp} {scale : Argument}
    (hc : ∀ o ∈ c.operations (.unary op scale), L.Covers o)
    (hd : ∀ o ∈ d.operations (.unary op scale), L.Covers o) :
    Fault.Rel L.fault (Alike L) (c.unary op scale) (d.unary op scale) := by
  refine Fault.Rel.bind (Fault.Rel.require h.exposed.value (L.fault_refl _)) fun v u hv hu hvu ↦ ?_
  rw [operations, Fault.require_eq_ok.1 hv] at hc
  rw [operations, Fault.require_eq_ok.1 hu] at hd
  refine Fault.Rel.bind (L.unary hvu (hc _ List.mem_cons_self) (hd _ List.mem_cons_self))
    fun w z _ _ hwz ↦ ?_
  exact .ok ⟨⟨h.exposed.id_eq, .some hwz⟩, h.enclosing, h.closed⟩

theorem openGroup (h : c.Alike L d) {op : Operator} {a b scale : Argument} (hab : L.Operand a b) :
    Fault.Rel L.fault (Alike L) (c.openGroup op a scale) (d.openGroup op b scale) := by
  refine Fault.Rel.bind (Fault.Rel.refl L.fault_refl (R := Eq) (fun _ ↦ rfl) _)
    fun s s' _ _ hs ↦ ?_
  subst hs
  refine Fault.Rel.bind hab fun v u _ _ hvu ↦ ?_
  exact .ok ⟨⟨h.size_eq, hvu⟩, .cons ⟨h.exposed, rfl, rfl⟩ h.enclosing, h.closed⟩

theorem close (h : c.Alike L d) (hc : ∀ o ∈ c.operations .close, L.Covers o)
    (hd : ∀ o ∈ d.operations .close, L.Covers o) :
    Fault.Rel L.fault (Alike L) c.close d.close := by
  unfold Chain.close
  have henclosing := h.enclosing
  rcases hcs : c.enclosing with _ | ⟨w, ws⟩ <;> rcases hds : d.enclosing with _ | ⟨u, us⟩ <;>
    rw [hcs, hds] at henclosing <;> rcases henclosing with _ | ⟨hw, hws⟩
  · exact .error (L.fault_refl _)
  · simp only [operations, hcs] at hc
    simp only [operations, hds, ← hw.pending_eq, ← hw.scale_eq] at hd
    simp only [← hw.pending_eq, ← hw.scale_eq]
    refine Fault.Rel.map (alike_foldGroup hw.scope.value h.exposed.value hc hd) fun v z hvz ↦ ?_
    exact ⟨⟨hw.scope.id_eq, .some hvz⟩, hws, forall₂_concat h.closed h.exposed⟩

/-- A call on the exposed scope keeps chains alike. -/
theorem act (h : c.Alike L d) {call call' : Call} (hcall : call.Alike L call')
    (hc : ∀ o ∈ c.operations call, L.Covers o) (hd : ∀ o ∈ d.operations call', L.Covers o) :
    Fault.Rel L.fault (Alike L) (c.act call) (d.act call') := by
  match hcall with
  | .binary hab => exact h.binary hab hc hd
  | .unary => exact h.unary hc hd
  | .openGroup hab => exact h.openGroup hab
  | .close => exact h.close hc hd

theorem ids_eq (h : c.Alike L d) :
    c.enclosing.map (·.scope.id) = d.enclosing.map (·.scope.id) :=
  map_eq_of_forall₂ h.enclosing fun _ _ hw ↦ hw.scope.id_eq

theorem place_eq (h : c.Alike L d) (id : ℕ) : c.place id = d.place id := by
  have hany : ∀ ws : List Waiting,
      ws.any (·.scope.id == id) = (ws.map (·.scope.id)).any (· == id) := by
    intro ws
    rw [List.any_map]
    rfl
  rw [place, place, hany, hany, h.ids_eq, h.exposed.id_eq]

theorem coveredFault_eq (h : c.Alike L d) {call call' : Call} (hcall : call.Alike L call')
    (id : ℕ) : c.coveredFault id call = d.coveredFault id call' := by
  have hclose : call = .close ↔ call' = .close := by
    rcases hcall with _ | _ | _ | _ <;> simp
  have hroot : c.enclosing.getLast?.map (·.scope.id) = d.enclosing.getLast?.map (·.scope.id) := by
    rw [← List.getLast?_map, ← List.getLast?_map, h.ids_eq]
  rw [coveredFault, coveredFault, hroot]
  simp only [hclose]

/-- Any call keeps chains alike, or fails alike. -/
theorem call (h : c.Alike L d) {call call' : Call} (hcall : call.Alike L call') {id : ℕ}
    (hc : ∀ o ∈ c.callOperations id call, L.Covers o)
    (hd : ∀ o ∈ d.callOperations id call', L.Covers o) :
    Fault.Rel L.fault (Alike L) (c.call id call) (d.call id call') := by
  have hplace := h.place_eq id
  unfold callOperations at hc hd
  unfold Chain.call
  rw [← hplace] at hd ⊢
  cases hp : c.place id with
  | exposed =>
    rw [hp, if_pos rfl] at hc hd
    exact h.act hcall hc hd
  | covered =>
    rw [h.coveredFault_eq hcall]
    exact .error (L.fault_refl _)
  | closed => exact .error (L.fault_refl _)

theorem result (h : c.Alike L d) (id : ℕ) :
    Fault.Rel L.fault L.number (c.result id) (d.result id) := by
  have henclosing := h.enclosing
  unfold Chain.result
  rw [← h.place_eq id]
  cases c.place id with
  | closed => exact .error (L.fault_refl _)
  | covered => exact .error (L.fault_refl _)
  | exposed =>
    rcases hcs : c.enclosing with _ | ⟨w, ws⟩ <;> rcases hds : d.enclosing with _ | ⟨u, us⟩ <;>
      rw [hcs, hds] at henclosing <;> rcases henclosing with _ | ⟨hw, hws⟩
    · exact Fault.Rel.require h.exposed.value (L.fault_refl _)
    · exact .error (L.fault_refl _)

/-! ## Views -/

theorem innermost_eq {ws us : List Waiting} (h : List.Forall₂ (Waiting.Alike L) ws us) :
    innermost ws = innermost us := by
  rcases h with _ | ⟨hw, _⟩
  · rfl
  · exact congrArg some hw.scope.id_eq

theorem waitingViews {ws us : List Waiting} (h : List.Forall₂ (Waiting.Alike L) ws us) (inner : ℕ) :
    List.Forall₂ (fun p q ↦ p.1 = q.1 ∧ p.2.Alike L q.2) (Chain.waitingViews inner ws)
      (Chain.waitingViews inner us) := by
  induction h generalizing inner with
  | nil => exact .nil
  | @cons w u ws us hw hws ih =>
    rw [Chain.waitingViews, Chain.waitingViews, hw.scope.id_eq]
    refine .cons ⟨rfl, ?_⟩ (ih _)
    exact ⟨hw.scope.value, hw.pending_eq, hw.scale_eq, innermost_eq hws, rfl, hws.length_eq, rfl⟩

/-- What can be seen of alike chains is alike. -/
theorem view? (h : c.Alike L d) (id : ℕ) :
    Option.Rel (View.Alike L) (c.view? id) (d.view? id) := by
  refine forall₂_lookup (.cons ⟨h.exposed.id_eq, ?_⟩ ?_) id
  · exact ⟨h.exposed.value, rfl, rfl, innermost_eq h.enclosing, rfl, h.enclosing.length_eq, rfl⟩
  · rw [h.exposed.id_eq]
    refine List.rel_append (waitingViews h.enclosing _) ?_
    refine List.rel_map (fun s t hst ↦ ⟨hst.id_eq, ?_⟩) h.closed
    exact ⟨hst.value, rfl, rfl, rfl, rfl, rfl, rfl⟩

end Alike

end Chain

/-- Where nothing may differ in the values, scopes are shown by the same text. -/
theorem View.Alike.shown {v u : View} (h : v.Alike L u) : L.Text v.shown u.shown := by
  intro heq
  have hvalue := optionRel_eq h.value heq
  unfold View.shown
  rw [hvalue, h.pending_eq, h.depth_eq]

end Bracket

end ChainedDecimal
