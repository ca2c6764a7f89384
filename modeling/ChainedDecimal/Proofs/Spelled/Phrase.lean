import ChainedDecimal.Proofs.Outcome
import ChainedDecimal.Proofs.Shared.Formula

/-!
# Phrases

The text of a scope is read as a phrase: a decimal that the scope begins with, unless it begins with
none, and behind it plain steps and groups, each of which is the text of a scope again. A phrase has
a value, which is calculated from left to right as it is read.

## Unary steps

A unary step stands around all that the scope had recorded before. Its text is that of a group which
the scope begins with, and the group has the same value, for it contains all there was. So a phrase
knows no unary steps, and a text that may have been recorded in different ways is still read in one.
-/

namespace ChainedDecimal

open ChainedDecimal.Bracket (foldGroup)

/-- The operators that a group may stand under, each with its scale if it takes one. -/
inductive Enclosure where
  | plain
  | binary (op : GroupOp)
  | negate
  | absolute
  | round (scale : Int)
deriving DecidableEq

namespace Enclosure

/-- The operator without its scale. -/
def operator : Enclosure → Operator
  | .plain => .plain
  | .binary op => .binary op.op
  | .negate => .unary .negate
  | .absolute => .unary .absolute
  | .round _ => .unary .round

/-- The scale. -/
def scale? : Enclosure → Option Int
  | .binary op => op.scale?
  | .round n => some n
  | _ => none

/-- Every operator is that of an enclosure, with a scale exactly if it takes one. -/
theorem exists_eq {op : Operator} {scale : Option Int} (h : scale.isSome = op.needsScale) :
    ∃ e : Enclosure, e.operator = op ∧ e.scale? = scale := by
  match op, scale with
  | .plain, none => exact ⟨.plain, rfl, rfl⟩
  | .binary .add, none => exact ⟨.binary .add, rfl, rfl⟩
  | .binary .subtract, none => exact ⟨.binary .subtract, rfl, rfl⟩
  | .binary .multiply, none => exact ⟨.binary .multiply, rfl, rfl⟩
  | .binary .divide, some n => exact ⟨.binary (.divide n), rfl, rfl⟩
  | .unary .negate, none => exact ⟨.negate, rfl, rfl⟩
  | .unary .absolute, none => exact ⟨.absolute, rfl, rfl⟩
  | .unary .round, some n => exact ⟨.round n, rfl, rfl⟩

end Enclosure

/-- The steps of a scope as they are read from its text. -/
inductive Phrase where
  /-- Nothing more. -/
  | done
  /-- A plain step. -/
  | step (op : GroupOp) (operand : Decimal) (rest : Phrase)
  /-- A group, which begins with a decimal unless there is none. -/
  | group (how : Enclosure) (first : Option Decimal) (inner rest : Phrase)

/-! ## The text -/

/-- The sign of a binary operator. -/
def BinaryOp.sign : BinaryOp → Char
  | .add => '+'
  | .subtract => '-'
  | .multiply => '*'
  | .divide => '/'

/-- The note of a scale, if there is one. -/
def noteChars : Option Int → List Char
  | none => []
  | some n => '[' :: 's' :: 'c' :: 'a' :: 'l' :: 'e' :: '=' :: ((Decimal.ofInt n).chars ++ [']'])

/-- A decimal, if there is one. -/
def firstChars : Option Decimal → List Char
  | none => []
  | some x => x.chars

/-- What opens a group. -/
def Operator.openChars : Operator → List Char
  | .plain => ['(']
  | .binary op => [' ', op.sign, ' ', '(']
  | .unary .negate => ['-', '(']
  | .unary .absolute => ['a', 'b', 's', '(']
  | .unary .round => ['r', 'o', 'u', 'n', 'd', '(']

theorem Operator.toList_openText (op : Operator) : op.openText.toList = op.openChars := by
  match op with
  | .binary op => cases op <;> rfl
  | .plain | .unary .negate | .unary .absolute | .unary .round => rfl

namespace Enclosure

/-- What closes a group. -/
def closeChars : Enclosure → List Char
  | .binary op => ')' :: noteChars op.scale?
  | .round n => ',' :: ' ' :: ((Decimal.ofInt n).chars ++ [')'])
  | _ => [')']

theorem toList_closeText (e : Enclosure) :
    (e.operator.closeText (.ofInt? e.scale?)).toList = e.closeChars := by
  cases e with
  | binary op =>
    cases op <;> simp [operator, GroupOp.op, Operator.closeText, scale?, GroupOp.scale?,
      Argument.ofInt?, scaleNote, Argument.shown, intText, Decimal.text, closeChars, noteChars]
  | _ =>
    simp [operator, Operator.closeText, scale?, Argument.ofInt?, Argument.shown, intText,
      Decimal.text, closeChars]

end Enclosure

theorem GroupOp.toList_stepText (op : GroupOp) (x : Decimal) :
    (op.op.stepText (.decimal x) op.scale).toList =
      ' ' :: op.op.sign :: ' ' :: (x.chars ++ noteChars op.scale?) := by
  cases op <;> simp [BinaryOp.stepText, GroupOp.op, BinaryOp.symbol, BinaryOp.sign,
    Argument.shown, Decimal.text, BinaryOp.needsScale, noteChars, GroupOp.scale?, scaleNote,
    GroupOp.scale, Argument.ofInt?, intText]

namespace Phrase

/-- The text behind the first decimal. -/
def chars : Phrase → List Char
  | .done => []
  | .step op x rest => ' ' :: op.op.sign :: ' ' :: (x.chars ++ (noteChars op.scale? ++ rest.chars))
  | .group e first inner rest =>
    e.operator.openChars ++ (firstChars first ++ (inner.chars ++ (e.closeChars ++ rest.chars)))

/-- The value of a scope behind the phrase, given the one before it. -/
def value : Phrase → Option Decimal → Except Fault (Option Decimal)
  | .done, v => .ok v
  | .step op x rest, v => do
    let u ← Fault.require (.scopeWithoutValue (.binary op.op)) v
    let w ← op.op.apply u x op.scale
    rest.value (some w)
  | .group e first inner rest, v => do
    let u ← inner.value first
    let w ← foldGroup e.operator e.scale? v u
    rest.value (some w)

/-- A phrase and another one behind it. -/
def append : Phrase → Phrase → Phrase
  | .done, q => q
  | .step op x rest, q => .step op x (rest.append q)
  | .group e first inner rest, q => .group e first inner (rest.append q)

theorem chars_append (p q : Phrase) : (p.append q).chars = p.chars ++ q.chars := by
  induction p with
  | done => rfl
  | step op x rest ih => simp [append, chars, ih]
  | group e first inner rest _ ih => simp [append, chars, ih]

theorem value_append (p q : Phrase) (v : Option Decimal) :
    (p.append q).value v = p.value v >>= q.value := by
  induction p generalizing v with
  | done => rfl
  | step op x rest ih => simp only [append, value, ih, bind_assoc]
  | group e first inner rest _ ih => simp only [append, value, ih, bind_assoc]

/-- Once there is a value there always is. -/
theorem isSome_of_value {p : Phrase} {v u : Option Decimal} (hv : v.isSome)
    (h : p.value v = .ok u) : u.isSome := by
  induction p generalizing v with
  | done =>
    cases h
    exact hv
  | step op x rest ih =>
    obtain ⟨_, -, h⟩ := Fault.bind_eq_ok.1 h
    obtain ⟨w, -, h⟩ := Fault.bind_eq_ok.1 h
    exact ih rfl h
  | group e first inner rest _ ih =>
    obtain ⟨_, -, h⟩ := Fault.bind_eq_ok.1 h
    obtain ⟨w, -, h⟩ := Fault.bind_eq_ok.1 h
    exact ih rfl h

/-- Only an empty phrase can end without a value. -/
theorem eq_done_of_value {p : Phrase} {v : Option Decimal} (h : p.value v = .ok none) :
    p = .done ∧ v = none := by
  match p with
  | .done =>
    cases h
    exact ⟨rfl, rfl⟩
  | .step op x rest =>
    obtain ⟨_, -, h⟩ := Fault.bind_eq_ok.1 h
    obtain ⟨w, -, h⟩ := Fault.bind_eq_ok.1 h
    cases isSome_of_value (v := some w) rfl h
  | .group e first inner rest =>
    obtain ⟨_, -, h⟩ := Fault.bind_eq_ok.1 h
    obtain ⟨w, -, h⟩ := Fault.bind_eq_ok.1 h
    cases isSome_of_value (v := some w) rfl h

end Phrase

end ChainedDecimal
