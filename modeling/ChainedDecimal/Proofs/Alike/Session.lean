import ChainedDecimal.Proofs.Alike.Chain
import ChainedDecimal.Proofs.Session.Failures

/-!
# Sessions side by side

A session holds calculations and, beside them, what is administered: settings, pools, and traces
that stand alone. Sessions are alike if their calculations are; nothing is said of the rest.

Commands fall into the same two classes. Those of a calculation are compared one by one. The others
may be given to one session and not to the other, for they leave all calculations alone.
-/

namespace ChainedDecimal

open Decimal (SameNumber)

namespace Session

variable {L : Likeness}

/-! ## Commands -/

/-- Whether a command belongs to a calculation. The others create, ask or change what is
administered, or cannot be understood. -/
def Command.isCalculation : Command → Bool
  | .beginBracket _ | .scope _ _ | .beginChain _ | .newChain _ _ | .chain _ _ | .compareChains _ _
  | .newGroup _ | .group _ _ | .evaluate _ _ | .calculate _ => true
  | .newTrace _ | .trace _ _ | .report _ _ _ | .newPool _ | .pool _ _ | .setVariables _
  | .settings _ | .refused _ => false

/-- The same request to a scope, with alike operands. -/
inductive ScopeRequest.Alike (L : Likeness) : ScopeRequest → ScopeRequest → Prop where
  | call {c d : Bracket.Call} (call : c.Alike L d) : Alike L (.call c) (.call d)
  | result : Alike L .result .result
  | shown : Alike L .shown .shown
  | refused {why : Fault} : Alike L (.refused why) (.refused why)

/-- The same request to a chain, with alike operands. -/
inductive ChainRequest.Alike (L : Likeness) : ChainRequest → ChainRequest → Prop where
  | join {op : BinaryOp} {x y : Closure.Operand} {scale : Argument} (operand : x.Alike L y) :
      Alike L (.join op x scale) (.join op y scale)
  | change {op : UnaryOp} {scale : Argument} : Alike L (.change op scale) (.change op scale)
  | result : Alike L .result .result
  | refused {why : Fault} : Alike L (.refused why) (.refused why)

/-- The same request to a group, with alike operands. -/
inductive GroupRequest.Alike (L : Likeness) : GroupRequest → GroupRequest → Prop where
  | join {op : BinaryOp} {x y : Closure.Operand} {scale : Argument} (operand : x.Alike L y) :
      Alike L (.join op x scale) (.join op y scale)
  | act {a b : Closure.Act} (act : a.Alike L b) : Alike L (.act a) (.act b)
  | shown : Alike L .shown .shown
  | refused {why : Fault} : Alike L (.refused why) (.refused why)

/-- The same command of a calculation, with alike operands. A chain that is put together directly
has a finite value. -/
inductive Command.Alike (L : Likeness) : Command → Command → Prop where
  | beginBracket {a b : Argument} (operand : L.Operand a b) :
      Alike L (.beginBracket a) (.beginBracket b)
  | scope {on : Option String} {r q : ScopeRequest} (request : r.Alike L q) :
      Alike L (.scope on r) (.scope on q)
  | beginChain {a b : Argument} (operand : L.Operand a b) : Alike L (.beginChain a) (.beginChain b)
  | newChain {v u : Decimal} (formula formula' : Option String) (value : L.number v u) :
      Alike L (.newChain (.finite v) formula) (.newChain (.finite u) formula')
  | chain {on : Option String} {r q : ChainRequest} (request : r.Alike L q) :
      Alike L (.chain on r) (.chain on q)
  | compareChains {a b : String} : Alike L (.compareChains a b) (.compareChains a b)
  | newGroup (traced traced' : Bool) : Alike L (.newGroup traced) (.newGroup traced')
  | group {on : String} {r q : GroupRequest} (request : r.Alike L q) :
      Alike L (.group on r) (.group on q)
  | evaluate {s t : Closure.Script} (traced traced' : Bool) (script : s.Alike L t) :
      Alike L (.evaluate s traced) (.evaluate t traced')
  | calculate {c d : Calculator.Call} (call : c.Alike L d) : Alike L (.calculate c) (.calculate d)

/-- A chain that is put together directly has a finite value. -/
def Command.IsFinite : Command → Prop
  | .newChain (.special _) _ => False
  | _ => True

instance : (c : Command) → Decidable c.IsFinite
  | .newChain (.special _) _ => isFalse id
  | .newChain (.finite _) _ | .beginBracket _ | .scope _ _ | .beginChain _ | .chain _ _
  | .compareChains _ _ | .newGroup _ | .group _ _ | .evaluate _ _ | .newTrace _ | .trace _ _
  | .report _ _ _ | .newPool _ | .pool _ _ | .setVariables _ | .settings _ | .calculate _
  | .refused _ => isTrue trivial

theorem Command.Alike.refl {c : Command} (hc : c.isCalculation = true) (hfinite : c.IsFinite) :
    c.Alike L c := by
  cases c with
  | beginBracket initial => exact .beginBracket (.refl initial)
  | scope on request =>
    refine .scope ?_
    match request with
    | .call call => exact .call (.refl call)
    | .result => exact .result
    | .shown => exact .shown
    | .refused _ => exact .refused
  | beginChain initial => exact .beginChain (.refl initial)
  | newChain value formula =>
    match value with
    | .finite v => exact .newChain _ _ (L.number_refl v)
    | .special _ => exact hfinite.elim
  | chain on request =>
    refine .chain ?_
    match request with
    | .join _ operand _ => exact .join (.refl operand)
    | .change _ _ => exact .change
    | .result => exact .result
    | .refused _ => exact .refused
  | compareChains a b => exact .compareChains
  | newGroup traced => exact .newGroup _ _
  | group on request =>
    refine .group ?_
    match request with
    | .join _ operand _ => exact .join (.refl operand)
    | .act act => exact .act (.refl act)
    | .shown => exact .shown
    | .refused _ => exact .refused
  | evaluate script traced => exact .evaluate _ _ (.refl script)
  | calculate call => exact .calculate (.refl call)
  | _ => cases hc

/-! ## Operations -/

/-- The chain that is meant. -/
def chain? (s : Session) (on : Option String) : Option Closure.Chain :=
  (s.chainPlace? on).bind fun i ↦ s.chains[i]?

theorem mem_of_chain? {s : Session} {on : Option String} {c : Closure.Chain}
    (h : s.chain? on = some c) : c ∈ s.chains := by
  obtain ⟨i, -, hi⟩ := Option.bind_eq_some_iff.1 h
  exact List.mem_of_getElem? hi

theorem onChain_of_none {s : Session} {on : Option String} (h : s.chain? on = none)
    (request : ChainRequest) : s.onChain on request = (s, .unknown) := by
  rw [chain?] at h
  rw [onChain, h]

theorem onChain_of_some {s : Session} {on : Option String} {c : Closure.Chain}
    (h : s.chain? on = some c) (request : ChainRequest) :
    s.onChain on request = s.askChain c request := by
  rw [chain?] at h
  rw [onChain, h]

/-- The group of a name. -/
def group? (s : Session) (on : String) : Option Closure.Group :=
  (placeOf? "g" s.groups.length on).bind fun i ↦ s.groups[i]?

/-- The scope that is meant, with its chain and its number there. -/
def bracket? (s : Session) (on : Option String) : Option (Bracket.Chain × ℕ) := do
  let i ← s.scopePlace? on
  let (k, id) ← s.scopes[i]?
  let c ← s.brackets[k]?
  return (c, id)

/-- The operations that a command carries out. -/
def operations (s : Session) : Command → List Operation
  | .scope on (.call call) => ((s.bracket? on).map fun (c, id) ↦ c.callOperations id call).getD []
  | .chain on (.join op operand scale) =>
    ((s.chain? on).map fun c ↦ c.joinOperations op operand scale).getD []
  | .chain on (.change op scale) => ((s.chain? on).map fun c ↦ c.unaryOperations op scale).getD []
  | .group on (.join op operand scale) =>
    ((s.group? on).map fun g ↦ g.joinOperations op operand scale).getD []
  | .group on (.act a) => ((s.group? on).map fun g ↦ a.operationsAt 0 [g]).getD []
  | .evaluate script traced => script.operations [.fresh traced]
  | .calculate c => c.operations
  | _ => []

/-- The operations that commands carry out, one after the other. -/
def runOperations (s : Session) : List Command → List Operation
  | [] => []
  | c :: cs => s.operations c ++ (s.step c).1.runOperations cs

/-! ## Replies -/

/-- The same scope, and alike to look at. -/
structure ScopeState.Alike (L : Likeness) (s t : ScopeState) : Prop where
  name_eq : s.name = t.name
  view : s.view.Alike L t.view
  parent_eq : s.parent = t.parent
  child_eq : s.child = t.child

/-- The same answer, with alike values. Results represent the same number; how, depends on the
pools. Formulas are shown or not. -/
inductive Outcome.Alike (L : Likeness) : Outcome → Outcome → Prop where
  | done : Alike L .done .done
  | scope {name : String} : Alike L (.scope name) (.scope name)
  | result {v u : Decimal} (entries entries' : Option ℕ) (number : SameNumber v u) :
      Alike L (.result (.finite v) entries) (.result (.finite u) entries')
  | text {x y : String} (text : L.Text x y) : Alike L (.text x) (.text y)
  | chain {name : String} {c d : Closure.Chain} (chain : c.Alike L d) :
      Alike L (.chain name c) (.chain name d)
  | same {b : Bool} : Alike L (.same b) (.same b)
  | group {name : String} {g h : Closure.Group} (group : g.Alike L h) :
      Alike L (.group name g) (.group name h)
  | reading {r q : Closure.Reading} (reading : r.Alike L q) : Alike L (.reading r) (.reading q)

/-- The same things are shown, with alike values. -/
inductive Status.Alike (L : Likeness) : Status → Status → Prop where
  | hidden : Alike L .hidden .hidden
  | scopes {ss ts : List ScopeState} (states : List.Forall₂ (ScopeState.Alike L) ss ts) :
      Alike L (.scopes ss) (.scopes ts)
  | notes {ns ms : List Closure.Note} (notes : List.Forall₂ (Closure.Note.Alike L) ns ms) :
      Alike L (.notes ns) (.notes ms)
  | group {g h : Closure.Group} {ns ms : List Closure.Note} (group : g.Alike L h)
      (notes : List.Forall₂ (Closure.Note.Alike L) ns ms) : Alike L (.group g ns) (.group h ms)

/-- Both failed, with alike faults, or none did; and what is shown is alike. -/
structure Reply.Alike (L : Likeness) (r q : Reply) : Prop where
  outcome : Fault.Rel L.fault (Outcome.Alike L) r.outcome q.outcome
  status : r.status.Alike L q.status

/-! ## Sessions -/

/-- The same calculations, with alike values. -/
structure Alike (L : Likeness) (s t : Session) : Prop where
  brackets : List.Forall₂ (Bracket.Chain.Alike L) s.brackets t.brackets
  scopes_eq : s.scopes = t.scopes
  latestScope_eq : s.latestScope = t.latestScope
  chains : List.Forall₂ (Closure.Chain.Alike L) s.chains t.chains
  groups : List.Forall₂ (Closure.Group.Alike L) s.groups t.groups

/-- Alike answers, and alike sessions afterwards. -/
def AlikeAnswers (L : Likeness) (p q : Session × Reply) : Prop :=
  p.1.Alike L q.1 ∧ p.2.Alike L q.2

namespace Alike

variable {s t : Session}

theorem initial : Session.initial.Alike L Session.initial := ⟨.nil, rfl, rfl, .nil, .nil⟩

/-- What is administered does not count. -/
theorem administer_left (h : s.Alike L t) (settings : Settings) (traces : List Trace) :
    { s with settings, traces }.Alike L t :=
  ⟨h.brackets, h.scopes_eq, h.latestScope_eq, h.chains, h.groups⟩

theorem administer_right (h : s.Alike L t) (settings : Settings) (traces : List Trace) :
    s.Alike L { t with settings, traces } :=
  ⟨h.brackets, h.scopes_eq, h.latestScope_eq, h.chains, h.groups⟩

theorem scopePlace?_eq (h : s.Alike L t) (on : Option String) :
    s.scopePlace? on = t.scopePlace? on := by
  unfold scopePlace?
  rw [h.scopes_eq, h.latestScope_eq]

theorem chain? (h : s.Alike L t) (on : Option String) :
    Option.Rel (Closure.Chain.Alike L) (s.chain? on) (t.chain? on) := by
  have hplace : s.chainPlace? on = t.chainPlace? on := by
    unfold chainPlace?
    rw [h.chains.length_eq]
  unfold Session.chain?
  rw [hplace]
  rcases t.chainPlace? on with _ | i
  · exact .none
  · exact forall₂_getElem? h.chains i

theorem scopeState? (h : s.Alike L t) (i : ℕ) :
    Option.Rel (ScopeState.Alike L) (s.scopeState? i) (t.scopeState? i) := by
  have hname : s.scopeNameIn? = t.scopeNameIn? := by
    funext k id
    rw [scopeNameIn?, scopeNameIn?, h.scopes_eq]
  unfold Session.scopeState?
  rw [h.scopes_eq, hname]
  rcases t.scopes[i]? with _ | ⟨k, id⟩
  · exact .none
  · have hbracket := forall₂_getElem? h.brackets k
    simp only [Option.bind_eq_bind, Option.bind_some]
    generalize s.brackets[k]? = a at hbracket ⊢
    generalize t.brackets[k]? = b at hbracket ⊢
    rcases hbracket with hc | _
    · rename_i c d
      have hview := hc.view? id
      simp only [Option.bind_some]
      generalize c.view? id = v at hview ⊢
      generalize d.view? id = u at hview ⊢
      rcases hview with hv | _
      · refine .some ⟨rfl, hv, ?_, ?_⟩
        · exact congrArg (Option.bind · _) hv.parent_eq
        · exact congrArg (Option.bind · _) hv.child_eq
      · exact .none
    · exact .none

theorem scopeStates (h : s.Alike L t) (is : List ℕ) :
    (s.scopeStates is).Alike L (t.scopeStates is) := by
  refine .scopes (List.rel_filterMap ?_ (List.forall₂_eq_eq_eq ▸ rfl : List.Forall₂ Eq is is))
  rintro i _ rfl
  exact h.scopeState? i

end Alike

end Session

end ChainedDecimal
