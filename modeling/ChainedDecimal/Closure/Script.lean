import ChainedDecimal.Closure.Group

/-!
# Callables for groups

An operand may be a callable that builds a group: it is given a fresh group, acts on it step by
step, and answers with a group. Here such a callable is data, a script, so that what it does can be
followed.

## Scripts

A script is a list of steps with an answer at its end. A step acts on a group, by a plain operator
or by an operator whose operand is a nested script. Scripts are nested in the way that functions
are: a step may act not only on the script's own group but on the group of the script around it, and
so on outwards, and a step may catch the fault of what it did, so that the script goes on. The
answer is usually the own group, but may be one of the groups around it, a new group, or no group at
all.

## Running

The groups that a script can reach are a list, its own group first. Running a script gives its
outcome and the groups afterwards, also when the outcome is a fault: what the steps before it did is
not undone. Each step that is finished leaves a note of the state of the group it acted on, or of
its fault, and the notes of a nested script come before that of the step it belongs to.

An operator with a nested script runs the script first and only then looks at the value of the group
that it acts on, which the script may have changed.
-/

namespace ChainedDecimal

namespace Closure

/-- What a step does to a group with plain arguments. -/
inductive Act where
  | begin (initial : Argument)
  | binary (op : BinaryOp) (operand scale : Argument)
  | unary (op : UnaryOp) (scale : Argument)
  | refused (why : Fault)
deriving DecidableEq

/-- What a script answers with. -/
inductive Answer where
  /-- A group that the script can reach; its own group is number zero. -/
  | reachable (level : Nat)
  /-- A new group that is not traced, begun with a value unless that is absent. -/
  | fresh (initial : Argument)
  /-- Something that is not a group. Nothing at all is taken for the own group. -/
  | other (x : Argument)
  | refused (why : Fault)
deriving DecidableEq

/-- A callable that builds a group. The level of a step says which of the reachable groups it acts
on. -/
inductive Script where
  | finish (answer : Answer)
  | plain (act : Act) (level : Nat) (caught : Bool) (rest : Script)
  | nest (op : BinaryOp) (inner : Script) (scale : Argument) (level : Nat) (caught : Bool)
      (rest : Script)
deriving DecidableEq

/-- What a finished step leaves behind. -/
inductive Note where
  | state (value : Option Decimal) (formula : Option String)
  | fault (f : Fault)
deriving DecidableEq

/-- What running something on reachable groups comes to. -/
structure Run (α : Type) where
  outcome : Except Fault α
  groups : List Group
  /-- The notes of the steps, in the order in which the steps were finished. -/
  notes : List Note
deriving DecidableEq

namespace Act

/-- Carries out an act on a group. -/
def on (act : Act) (g : Group) : Except Fault Group :=
  match act with
  | .begin initial => g.begin initial
  | .binary op operand scale => g.binary op operand scale
  | .unary op scale => g.unary op scale
  | .refused why => .error why

/-- Carries out an act on one of the reachable groups. -/
def perform (act : Act) (level : Nat) (groups : List Group) : Run Unit :=
  match (Fault.require .noSuchGroup groups[level]?).bind act.on with
  | .error f => ⟨.error f, groups, []⟩
  | .ok g => ⟨.ok (), groups.set level g, []⟩

end Act

/-- The group that an answer stands for. -/
def Answer.resolve (answer : Answer) (groups : List Group) : Except Fault Group :=
  match answer with
  | .reachable level => Fault.require .noSuchGroup groups[level]?
  | .fresh .absent => .ok (.fresh false)
  | .fresh initial => (Group.fresh false).begin initial
  | .other .absent => Fault.require .noSuchGroup groups[0]?
  | .other x => .error (.notAGroup x.typeName)
  | .refused why => .error why

namespace Run

/-- The note of a step that acted on one of the reachable groups. -/
def note (r : Run Unit) (level : Nat) : Note :=
  match r.outcome, r.groups[level]? with
  | .error f, _ => .fault f
  | .ok (), none => .fault .noSuchGroup
  | .ok (), some g => .state g.value g.formula?

/-- Goes on after a step, unless it ended with a fault that is not caught. -/
def proceed {α : Type} (r : Run Unit) (level : Nat) (caught : Bool) (next : List Group → Run α) :
    Run α :=
  match r.outcome, caught with
  | .error f, false => ⟨.error f, r.groups, r.notes ++ [r.note level]⟩
  | _, _ =>
    let s := next r.groups
    ⟨s.outcome, s.groups, r.notes ++ r.note level :: s.notes⟩

/-- Reads the group that a script answered with. The script's own group is out of reach from now on.
-/
def finished (r : Run Group) : Run Reading :=
  ⟨r.outcome.bind Group.reading, r.groups.tail, r.notes⟩

end Run

/-- Carries out an operator on one of the reachable groups, whose operand is a group that is built
first. The built group is traced if the one acted on is. -/
def absorbing (op : BinaryOp) (scale : Argument) (level : Nat) (groups : List Group)
    (build : Bool → Run Reading) : Run Unit :=
  match groups[level]? with
  | none => ⟨.error .noSuchGroup, groups, []⟩
  | some g =>
    let built := build g.isTraced
    match built.outcome, built.groups[level]? with
    | .error f, _ => ⟨.error f, built.groups, built.notes⟩
    | .ok _, none => ⟨.error .noSuchGroup, built.groups, built.notes⟩
    | .ok reading, some g =>
      let absorbed := g.absorb op reading scale
      ⟨absorbed.1, built.groups.set level absorbed.2, built.notes⟩

namespace Script

/-- Runs a script on the groups that it can reach, its own group first. -/
def run : Script → List Group → Run Group
  | .finish answer, groups => ⟨answer.resolve groups, groups, []⟩
  | .plain act level caught rest, groups =>
    (act.perform level groups).proceed level caught fun after ↦ run rest after
  | .nest op inner scale level caught rest, groups =>
    (absorbing op scale level groups fun traced ↦
        (run inner (Group.fresh traced :: groups)).finished).proceed level caught
      fun after ↦ run rest after

/-- Runs a script on a fresh group, within the reach of the given ones, and reads what it answers
with. -/
def evaluate (s : Script) (traced : Bool) (around : List Group) : Run Reading :=
  (s.run (.fresh traced :: around)).finished

/-- The script that does nothing and answers with nothing. -/
def idle : Script := .finish (.reachable 0)

instance : Inhabited Script := ⟨idle⟩

/-- Carries out an operator on a group that stands alone, with a script for the operand. -/
def applyTo (s : Script) (g : Group) (op : BinaryOp) (scale : Argument) : Run Unit :=
  absorbing op scale 0 [g] fun traced ↦ s.evaluate traced [g]

end Script

end Closure

end ChainedDecimal
