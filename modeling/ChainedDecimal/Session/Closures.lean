import ChainedDecimal.Session.State

/-!
# Chains with callables in a session

Chains are never changed, so each operator that succeeds gives a new chain with a new name. Groups
that stand alone are changed in place, also by an operator that fails after its callable has acted
on them.
-/

namespace ChainedDecimal

namespace Session

/-- Adds a chain. -/
def addChain (s : Session) (c : Closure.Chain) (status : Status) : Session × Reply :=
  ({ s with chains := s.chains ++ [c] }, ⟨.ok (.chain (chainName s.chains.length) c), status, []⟩)

/-- Adds the chain that an operator gave, if it succeeded. -/
def addChain? (s : Session) (c : Except Fault Closure.Chain) (notes : List Closure.Note) :
    Session × Reply :=
  match c with
  | .error f => (s, ⟨.error f, .notes notes, []⟩)
  | .ok c => s.addChain c (.notes notes)

/-- Begins a chain. -/
def beginChain (s : Session) (initial : Argument) : Session × Reply :=
  match Closure.Chain.begin initial s.settings.tracing with
  | .error f => (s, .of (.error f))
  | .ok c => s.addChain c .hidden

/-- Answers a request to a chain. -/
def askChain (s : Session) (c : Closure.Chain) (request : ChainRequest) : Session × Reply :=
  match request with
  | .join op operand scale => s.addChain? (c.join op operand scale).1 (c.join op operand scale).2
  | .change op scale => s.addChain? (c.unary op scale) []
  | .result => s.read closureEngine c.formula c.value .hidden
  | .refused why => (s, ⟨.error why, .notes [], []⟩)

/-- Answers a request to the chain that is meant. -/
def onChain (s : Session) (on : Option String) (request : ChainRequest) : Session × Reply :=
  match (s.chainPlace? on).bind fun i ↦ s.chains[i]? with
  | none => (s, .unknown)
  | some c => s.askChain c request

/-- Whether the chains at two places have the same value. A chain has the same value as itself, even
if that is not a number. -/
def sameChains (s : Session) (i j : Nat) : Except Fault Bool :=
  match s.chains[i]?, s.chains[j]? with
  | some x, some y => if i = j then .ok true else x.value.sameValue y.value
  | _, _ => .error .unknownRequest

/-- Whether two chains have the same value. -/
def compareChains (s : Session) (a b : String) : Session × Reply :=
  match s.chainPlace? (some a), s.chainPlace? (some b) with
  | some i, some j => (s, .of ((s.sameChains i j).map .same))
  | _, _ => (s, .unknown)

/-- Adds a group that stands alone. -/
def newGroup (s : Session) (traced : Bool) : Session × Reply :=
  let g := Closure.Group.fresh traced
  ({ s with groups := s.groups ++ [g] }, .of (.ok (.group (groupName s.groups.length) g)))

/-- Puts a group in the state that a step left it in. -/
def settleGroup (s : Session) (i : Nat) (before : Closure.Group) (r : Closure.Run Unit) :
    Session × Reply :=
  let after := r.groups.head?.getD before
  ({ s with groups := s.groups.set i after },
    ⟨r.outcome.map fun () ↦ .done, .group after r.notes, []⟩)

/-- Answers a request to a group. -/
def askGroup (s : Session) (i : Nat) (g : Closure.Group) (request : GroupRequest) :
    Session × Reply :=
  match request with
  | .join op operand scale => s.settleGroup i g (g.join op operand scale)
  | .act a => s.settleGroup i g (a.perform 0 [g])
  | .shown => (s, .of (.ok (.text g.shown)))
  | .refused why => (s, ⟨.error why, .group g [], []⟩)

/-- Answers a request to a group of a name. -/
def onGroup (s : Session) (on : String) (request : GroupRequest) : Session × Reply :=
  match placeOf? "g" s.groups.length on with
  | none => (s, .unknown)
  | some i =>
    match s.groups[i]? with
    | none => (s, .unknown)
    | some g => s.askGroup i g request

/-- Evaluates a callable on its own. -/
def evaluate (s : Session) (script : Closure.Script) (traced : Bool) : Session × Reply :=
  let r := script.evaluate traced []
  (s, ⟨r.outcome.map .reading, .notes r.notes, []⟩)

end Session

end ChainedDecimal
