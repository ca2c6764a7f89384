import ChainedDecimal.Text.CaseTable

/-!
# Lower case

A text in lower case, letter by letter. All letters but two have a lower-case form of their own. The
capital I with a dot gets two characters, an `i` and the dot, and the capital sigma has a form for
the end of a word: it stands at the end if a cased character comes before it and none comes after
it, where marks such as apostrophes and accents are passed over on both sides.
-/

namespace ChainedDecimal

/-- The lower-case form of a letter on its own. -/
def lowerLetter (c : Char) : Char :=
  match lowerRuns.find? (·.covers c.toNat) with
  | some r => Char.ofNat ((c.toNat : Int) + r.shift).toNat
  | none => c

/-- Whether the nearest character that is not passed over is a cased one. -/
def meetsCased (cs : List Char) : Bool :=
  match cs.find? fun c ↦ !inRanges passedOverRanges c.toNat with
  | some c => inRanges casedRanges c.toNat
  | none => false

/-- The lower-case form of a letter between the text before it, nearest first, and the text after
it. -/
def lowerIn (before : List Char) (c : Char) (after : List Char) : List Char :=
  if c = 'İ' then ['i', Char.ofNat 0x307]
  else if c = 'Σ' then [if meetsCased before && !meetsCased after then 'ς' else 'σ']
  else [lowerLetter c]

/-- The lower-case form of a text that stands behind another one, which is given nearest first. -/
def lowerChars (before : List Char) : List Char → List Char
  | [] => []
  | c :: cs => lowerIn before c cs ++ lowerChars (c :: before) cs

/-- The lower-case form of a text. -/
def lowerCase (s : String) : String := String.ofList (lowerChars [] s.toList)

end ChainedDecimal
