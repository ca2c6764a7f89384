import ChainedDecimal.Calculator
import ChainedDecimal.Proofs.Alike.Closure

/-!
# Chains with callables and single calculations side by side

Alike chains have alike finite values; one of them may be traced while the other is not. The same
operators with alike operands, callables included, lead to alike chains. Single calculations are
alike if their operands are, one by one.
-/

namespace ChainedDecimal

variable {L : Likeness}

namespace Closure

/-! ## Chains -/

/-- The same kind of operand, and alike. -/
inductive Operand.Alike (L : Likeness) : Operand → Operand → Prop where
  | plain {a b : Argument} (operand : L.Operand a b) : Alike L (.plain a) (.plain b)
  | script {s t : Script} (script : s.Alike L t) : Alike L (.script s) (.script t)

theorem Operand.Alike.refl (x : Operand) : x.Alike L x := by
  match x with
  | .plain operand => exact .plain (.refl operand)
  | .script s => exact .script (.refl s)

/-- The operation that joins a group that stands alone with an operand, and those of the callable.
-/
def Group.joinOperations (g : Group) (op : BinaryOp) (operand : Operand) (scale : Argument) :
    List Operation :=
  match operand with
  | .plain x => (Act.binary op x scale).operationsAt 0 [g]
  | .script s => absorbingOperations op scale 0 [g] (fun traced ↦ s.evaluate traced [g])
      fun traced ↦ s.operations [.fresh traced, g]

theorem Group.Alike.join {g h : Group} (hgh : g.Alike L h) {op : BinaryOp} {scale : Argument}
    {x y : Operand} (hxy : x.Alike L y) (hc : ∀ o ∈ g.joinOperations op x scale, L.Covers o)
    (hd : ∀ o ∈ h.joinOperations op y scale, L.Covers o) :
    Run.Alike L Eq (g.join op x scale) (h.join op y scale) := by
  have hgroups : List.Forall₂ (Group.Alike L) [g] [h] := .cons hgh .nil
  match hxy with
  | .plain operand => exact (Act.Alike.binary operand).perform hgroups hc hd
  | .script script =>
    rw [joinOperations] at hc hd
    exact Run.Alike.absorbing hgroups hc hd fun _ _ hc hd ↦ script.evaluate hgroups hc hd

namespace Chain

/-- The operation that a plain operand leads to, if it comes to that. -/
def binaryOperations (c : Chain) (op : BinaryOp) (operand scale : Argument) : List Operation :=
  match c.value, operand.toDecimal with
  | .finite v, .ok x => [.binary op v x scale]
  | _, _ => []

/-- The operation that joins a group that was built, if it comes to that. -/
def absorbOperations (c : Chain) (op : BinaryOp) (scale : Argument) (built : Run Reading) :
    List Operation :=
  match c.value, built.outcome with
  | .finite v, .ok r => [.binary op v r.value scale]
  | _, _ => []

/-- The operations that an operand of either kind leads to. -/
def joinOperations (c : Chain) (op : BinaryOp) (operand : Operand) (scale : Argument) :
    List Operation :=
  match operand with
  | .plain x => c.binaryOperations op x scale
  | .script s =>
    s.operations [.fresh c.isTraced] ++ c.absorbOperations op scale (s.evaluate c.isTraced [])

/-- The operation that changes the value. -/
def unaryOperations (c : Chain) (op : UnaryOp) (scale : Argument) : List Operation :=
  match c.value with
  | .finite v => [.unary op v scale]
  | .special _ => []

/-- Chains with alike finite values, within the limits. -/
inductive Alike (L : Likeness) : Chain → Chain → Prop where
  | intro {v u : Decimal} (formula formula' : Option String) (value : L.number v u)
      (fits : v.Fits) (fits' : u.Fits) : Alike L ⟨.finite v, formula⟩ ⟨.finite u, formula'⟩

theorem alike_begin {a b : Argument} (h : L.Operand a b) (ha : a.Fits) (hb : b.Fits)
    (traced traced' : Bool) : Fault.Rel L.fault (Alike L) (begin a traced) (begin b traced') := by
  refine Fault.Rel.bind h fun v u hv hu hvu ↦ .ok ?_
  refine .intro _ _ (optionRel_getD hvu (L.number_refl .zero)) ?_ ?_
  · exact Argument.fits_getD_toDecimal? ha hv
  · exact Argument.fits_getD_toDecimal? hb hu

theorem extend_bind {op : BinaryOp} {v x : Decimal} {scale : Argument}
    (k : Numeral → Except Fault Chain) :
    (op.extend (.finite v) (.finite x) scale >>= k) =
      op.apply v x scale >>= fun w ↦ k (.finite w) := by
  rw [BinaryOp.extend_finite]
  cases op.apply v x scale <;> rfl

theorem extend_unary_bind {op : UnaryOp} {v : Decimal} {scale : Argument}
    (k : Numeral → Except Fault Chain) :
    (op.extend (.finite v) scale >>= k) = op.apply v scale >>= fun w ↦ k (.finite w) := by
  rw [UnaryOp.extend_finite]
  cases op.apply v scale <;> rfl

namespace Alike

variable {c d : Chain}

theorem binary (h : c.Alike L d) {op : BinaryOp} {a b scale : Argument} (hab : L.Operand a b)
    (hc : ∀ o ∈ c.binaryOperations op a scale, L.Covers o)
    (hd : ∀ o ∈ d.binaryOperations op b scale, L.Covers o) :
    Fault.Rel L.fault (Alike L) (c.binary op a scale) (d.binary op b scale) := by
  obtain ⟨formula, formula', hv, -, -⟩ := h
  refine Fault.Rel.bind hab.toDecimal fun x y hx hy hxy ↦ ?_
  simp only [binaryOperations, hx] at hc
  simp only [binaryOperations, hy] at hd
  rw [extend_bind, extend_bind]
  refine Fault.Rel.bind (L.binary hv hxy (hc _ List.mem_cons_self) (hd _ List.mem_cons_self))
    fun w z hw hz hwz ↦ ?_
  exact .ok (.intro _ _ hwz (BinaryOp.fits_of_apply hw) (BinaryOp.fits_of_apply hz))

theorem nest (h : c.Alike L d) {op : BinaryOp} {s t : Script} (hst : s.Alike L t) {scale : Argument}
    (hc : ∀ o ∈ c.joinOperations op (.script s) scale, L.Covers o)
    (hd : ∀ o ∈ d.joinOperations op (.script t) scale, L.Covers o) :
    Fault.Rel L.fault (Alike L) (c.nest op s scale).1 (d.nest op t scale).1 ∧
      List.Forall₂ (Note.Alike L) (c.nest op s scale).2 (d.nest op t scale).2 := by
  have hbuilt := hst.evaluate List.Forall₂.nil
    (fun o ho ↦ hc o (List.mem_append_left _ ho)) (fun o ho ↦ hd o (List.mem_append_left _ ho))
  replace hc := fun o ho ↦ hc o (List.mem_append_right _ ho)
  replace hd := fun o ho ↦ hd o (List.mem_append_right _ ho)
  refine ⟨?_, hbuilt.notes⟩
  obtain ⟨formula, formula', hv, -, -⟩ := h
  refine Fault.Rel.bind hbuilt.outcome fun r r' hr hr' hrr' ↦ ?_
  simp only [absorbOperations, hr] at hc
  simp only [absorbOperations, hr'] at hd
  rw [absorb, absorb, extend_bind, extend_bind]
  refine Fault.Rel.bind (L.binary hv hrr' (hc _ List.mem_cons_self) (hd _ List.mem_cons_self))
    fun w z hw hz hwz ↦ ?_
  exact .ok (.intro _ _ hwz (BinaryOp.fits_of_apply hw) (BinaryOp.fits_of_apply hz))

theorem join (h : c.Alike L d) {op : BinaryOp} {x y : Operand} (hxy : x.Alike L y)
    {scale : Argument} (hc : ∀ o ∈ c.joinOperations op x scale, L.Covers o)
    (hd : ∀ o ∈ d.joinOperations op y scale, L.Covers o) :
    Fault.Rel L.fault (Alike L) (c.join op x scale).1 (d.join op y scale).1 ∧
      List.Forall₂ (Note.Alike L) (c.join op x scale).2 (d.join op y scale).2 := by
  match hxy with
  | .plain operand => exact ⟨h.binary operand hc hd, .nil⟩
  | .script script => exact h.nest script hc hd

theorem unary (h : c.Alike L d) {op : UnaryOp} {scale : Argument}
    (hc : ∀ o ∈ c.unaryOperations op scale, L.Covers o)
    (hd : ∀ o ∈ d.unaryOperations op scale, L.Covers o) :
    Fault.Rel L.fault (Alike L) (c.unary op scale) (d.unary op scale) := by
  obtain ⟨formula, formula', hv, -, -⟩ := h
  rw [Chain.unary, Chain.unary, extend_unary_bind, extend_unary_bind]
  refine Fault.Rel.bind (L.unary hv (hc _ List.mem_cons_self) (hd _ List.mem_cons_self))
    fun w z hw hz hwz ↦ ?_
  exact .ok (.intro _ _ hwz (UnaryOp.fits_of_apply hw) (UnaryOp.fits_of_apply hz))

/-- Chains are found to have the same value exactly if the chains beside them are. -/
theorem sameValue_eq {c' d' : Chain} (h : c.Alike L d) (h' : c'.Alike L d') :
    c.value.sameValue c'.value = d.value.sameValue d'.value := by
  obtain ⟨_, _, hv, -, -⟩ := h
  obtain ⟨_, _, hv', -, -⟩ := h'
  have hsame := L.sameNumber hv
  have hsame' := L.sameNumber hv'
  refine congrArg Except.ok ?_
  rw [Bool.eq_iff_iff, Decimal.sameValue_iff, Decimal.sameValue_iff, Decimal.SameNumber, hsame,
    hsame']
  rfl

end Alike

end Chain

end Closure

/-! ## Single calculations -/

namespace Calculator

/-- The operation that joins two operands, if it comes to that. -/
def joinOperations (op : BinaryOp) (a b scale : Argument) : List Operation :=
  match a.toDecimal, b.toDecimal with
  | .ok x, .ok y => [.binary op x y scale]
  | _, _ => []

/-- The operations that join a value with further operands. -/
def joinAllOperations (op : BinaryOp) (x : Decimal) : List Argument → List Operation
  | [] => []
  | b :: bs =>
    match b.toDecimal with
    | .error _ => []
    | .ok y => .binary op x y .absent ::
        match op.apply x y .absent with
        | .error _ => []
        | .ok z => joinAllOperations op z bs

/-- The operations that join two operands and then further ones. -/
def sumOperations (op : BinaryOp) (a b : Argument) (others : List Argument) : List Operation :=
  joinOperations op a b .absent ++
    match join op a b .absent with
    | .error _ => []
    | .ok x => joinAllOperations op x others

/-- The operation that changes an operand, if it comes to that. -/
def changeOperations (op : UnaryOp) (a scale : Argument) : List Operation :=
  match a.toDecimal with
  | .ok x => [.unary op x scale]
  | .error _ => []

/-- The operations of a calculation. -/
def Call.operations : Call → List Operation
  | .add a b others => sumOperations .add a b others
  | .subtract a b => joinOperations .subtract a b .absent
  | .multiply a b others => sumOperations .multiply a b others
  | .divide a b scale => joinOperations .divide a b scale
  | .negate a => changeOperations .negate a .absent
  | .absolute a => changeOperations .absolute a .absent
  | .round a scale => changeOperations .round a scale

/-- The same calculation, with alike operands. -/
inductive Call.Alike (L : Likeness) : Call → Call → Prop where
  | add {a a' b b' : Argument} {others others' : List Argument} (left : L.Operand a a')
      (right : L.Operand b b') (others_alike : List.Forall₂ L.Operand others others') :
      Alike L (.add a b others) (.add a' b' others')
  | subtract {a a' b b' : Argument} (left : L.Operand a a') (right : L.Operand b b') :
      Alike L (.subtract a b) (.subtract a' b')
  | multiply {a a' b b' : Argument} {others others' : List Argument} (left : L.Operand a a')
      (right : L.Operand b b') (others_alike : List.Forall₂ L.Operand others others') :
      Alike L (.multiply a b others) (.multiply a' b' others')
  | divide {a a' b b' scale : Argument} (left : L.Operand a a') (right : L.Operand b b') :
      Alike L (.divide a b scale) (.divide a' b' scale)
  | negate {a a' : Argument} (operand : L.Operand a a') : Alike L (.negate a) (.negate a')
  | absolute {a a' : Argument} (operand : L.Operand a a') : Alike L (.absolute a) (.absolute a')
  | round {a a' scale : Argument} (operand : L.Operand a a') :
      Alike L (.round a scale) (.round a' scale)

theorem Call.Alike.refl (c : Call) : c.Alike L c := by
  match c with
  | .add a b others => exact .add (.refl a) (.refl b) (List.forall₂_same.2 fun x _ ↦ .refl x)
  | .subtract a b => exact .subtract (.refl a) (.refl b)
  | .multiply a b others =>
    exact .multiply (.refl a) (.refl b) (List.forall₂_same.2 fun x _ ↦ .refl x)
  | .divide a b _ => exact .divide (.refl a) (.refl b)
  | .negate a => exact .negate (.refl a)
  | .absolute a => exact .absolute (.refl a)
  | .round a _ => exact .round (.refl a)

theorem alike_join {op : BinaryOp} {a a' b b' scale : Argument} (ha : L.Operand a a')
    (hb : L.Operand b b') (hc : ∀ o ∈ joinOperations op a b scale, L.Covers o)
    (hd : ∀ o ∈ joinOperations op a' b' scale, L.Covers o) :
    Fault.Rel L.fault L.number (join op a b scale) (join op a' b' scale) := by
  refine Fault.Rel.bind ha.toDecimal fun x x' hx hx' hxx' ↦ ?_
  refine Fault.Rel.bind hb.toDecimal fun y y' hy hy' hyy' ↦ ?_
  simp only [joinOperations, hx, hy] at hc
  simp only [joinOperations, hx', hy'] at hd
  exact L.binary hxx' hyy' (hc _ List.mem_cons_self) (hd _ List.mem_cons_self)

theorem alike_joinAll {op : BinaryOp} {bs bs' : List Argument} (hbs : List.Forall₂ L.Operand bs bs')
    {x x' : Decimal} (hx : L.number x x') (hc : ∀ o ∈ joinAllOperations op x bs, L.Covers o)
    (hd : ∀ o ∈ joinAllOperations op x' bs', L.Covers o) :
    Fault.Rel L.fault L.number (joinAll op x bs) (joinAll op x' bs') := by
  induction hbs generalizing x x' with
  | nil => exact .ok hx
  | cons hb _ ih =>
    rw [joinAllOperations] at hc hd
    have hone := hb.toDecimal
    rw [joinAll, joinAll]
    refine Fault.Rel.bind (R := L.number) ?_ fun z z' hz hz' hzz' ↦ ?_
    · refine Fault.Rel.bind hone fun y y' hy hy' hyy' ↦ ?_
      simp only [hy] at hc
      simp only [hy'] at hd
      exact L.binary hx hyy' (hc _ List.mem_cons_self) (hd _ List.mem_cons_self)
    · obtain ⟨y, hy, hz⟩ := Fault.bind_eq_ok.1 hz
      obtain ⟨y', hy', hz'⟩ := Fault.bind_eq_ok.1 hz'
      simp only [hy, hz] at hc
      simp only [hy', hz'] at hd
      exact ih hzz' (fun o ho ↦ hc o (List.mem_cons_of_mem _ ho))
        fun o ho ↦ hd o (List.mem_cons_of_mem _ ho)

theorem alike_sum {op : BinaryOp} {a a' b b' : Argument} {others others' : List Argument}
    (ha : L.Operand a a') (hb : L.Operand b b') (hothers : List.Forall₂ L.Operand others others')
    (hc : ∀ o ∈ sumOperations op a b others, L.Covers o)
    (hd : ∀ o ∈ sumOperations op a' b' others', L.Covers o) :
    Fault.Rel L.fault L.number ((join op a b .absent).bind fun x ↦ joinAll op x others)
      ((join op a' b' .absent).bind fun x ↦ joinAll op x others') := by
  have hjoin := alike_join ha hb (fun o ho ↦ hc o (List.mem_append_left _ ho))
    (fun o ho ↦ hd o (List.mem_append_left _ ho))
  replace hc := fun o ho ↦ hc o (List.mem_append_right _ ho)
  replace hd := fun o ho ↦ hd o (List.mem_append_right _ ho)
  refine Fault.Rel.bind hjoin fun x x' hx hx' hxx' ↦ ?_
  simp only [hx] at hc
  simp only [hx'] at hd
  exact alike_joinAll hothers hxx' hc hd

theorem alike_change {op : UnaryOp} {a a' scale : Argument} (ha : L.Operand a a')
    (hc : ∀ o ∈ changeOperations op a scale, L.Covers o)
    (hd : ∀ o ∈ changeOperations op a' scale, L.Covers o) :
    Fault.Rel L.fault L.number (change op a scale) (change op a' scale) := by
  refine Fault.Rel.bind ha.toDecimal fun x x' hx hx' hxx' ↦ ?_
  simp only [changeOperations, hx] at hc
  simp only [changeOperations, hx'] at hd
  exact L.unary hxx' (hc _ List.mem_cons_self) (hd _ List.mem_cons_self)

theorem fits_of_join {op : BinaryOp} {a b scale : Argument} {v : Decimal}
    (h : join op a b scale = .ok v) : v.Fits := by
  obtain ⟨x, -, h⟩ := Fault.bind_eq_ok.1 h
  obtain ⟨y, -, h⟩ := Fault.bind_eq_ok.1 h
  exact BinaryOp.fits_of_apply h

theorem fits_of_joinAll {op : BinaryOp} {bs : List Argument} {x v : Decimal} (hx : x.Fits)
    (h : joinAll op x bs = .ok v) : v.Fits := by
  induction bs generalizing x with
  | nil =>
    cases h
    exact hx
  | cons b bs ih =>
    obtain ⟨z, hz, h⟩ := Fault.bind_eq_ok.1 h
    obtain ⟨y, -, hz⟩ := Fault.bind_eq_ok.1 hz
    exact ih (BinaryOp.fits_of_apply hz) h

theorem fits_of_change {op : UnaryOp} {a scale : Argument} {v : Decimal}
    (h : change op a scale = .ok v) : v.Fits := by
  obtain ⟨x, -, h⟩ := Fault.bind_eq_ok.1 h
  exact UnaryOp.fits_of_apply h

/-- The value of a calculation is what its last operation comes to, so that it fits. -/
theorem Call.fits_of_value {c : Call} {v : Decimal} (h : c.value = .ok v) : v.Fits := by
  match c with
  | .add a b others | .multiply a b others =>
    obtain ⟨x, hx, h⟩ := Fault.bind_eq_ok.1 h
    exact fits_of_joinAll (fits_of_join hx) h
  | .subtract a b | .divide a b scale => exact fits_of_join h
  | .negate a | .absolute a | .round a scale => exact fits_of_change h

/-- Alike calculations have alike values. -/
theorem Call.Alike.value {c d : Call} (h : c.Alike L d) (hc : ∀ o ∈ c.operations, L.Covers o)
    (hd : ∀ o ∈ d.operations, L.Covers o) : Fault.Rel L.fault L.number c.value d.value := by
  match h with
  | .add left right others_alike | .multiply left right others_alike =>
    exact alike_sum left right others_alike hc hd
  | .subtract left right | .divide left right => exact alike_join left right hc hd
  | .negate operand | .absolute operand | .round operand => exact alike_change operand hc hd

end Calculator

end ChainedDecimal
