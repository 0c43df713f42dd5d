import SignalControl.Text.Composition.Table

namespace SignalControl.Text.Composition

/-! Canonical composition of code points. Composed characters are first taken
apart, then marks that can change places are put in the order of their classes,
and at last each character is joined with the marks after it as far as composed
characters exist. Texts that differ only in these respects compose to the same
text. -/

/-! ## Pairs -/

structure Pair where
  composed : Nat
  first : Nat
  second : Nat

def writtenPair? (word : List Char) : Option Pair := do
  let (composed, parts) ← splitAtFirst? '=' word
  let (first, second) ← splitAtFirst? ',' parts
  return {
    composed := valueIn 16 composed
    first := valueIn 16 first
    second := valueIn 16 second }

def pairs : List Pair :=
  (words pairLines).filterMap writtenPair?

/-! ## Hangul -/

/-- A syllable is a leading consonant and a vowel, with or without a trailing
consonant; syllables are numbered in the order of these parts. -/
def firstSyllable : Nat := 0xAC00

def firstLeading : Nat := 0x1100

def firstVowel : Nat := 0x1161

def noTrailing : Nat := 0x11A7

def leadings : Nat := 19

def vowels : Nat := 21

def trailings : Nat := 28

def isSyllable (code : Nat) : Bool :=
  firstSyllable ≤ code && code < firstSyllable + leadings * vowels * trailings

def splitSyllable (code : Nat) : List Nat :=
  let position := code - firstSyllable
  let trailing := position % trailings
  [firstLeading + position / (vowels * trailings),
    firstVowel + position / trailings % vowels]
    ++ if trailing = 0 then [] else [noTrailing + trailing]

def joinSyllable? (first second : Nat) : Option Nat :=
  if firstLeading ≤ first ∧ first < firstLeading + leadings
      ∧ firstVowel ≤ second ∧ second < firstVowel + vowels then
    some (firstSyllable
      + ((first - firstLeading) * vowels + (second - firstVowel)) * trailings)
  else if isSyllable first ∧ (first - firstSyllable) % trailings = 0
      ∧ noTrailing < second ∧ second < noTrailing + trailings then
    some (first + (second - noTrailing))
  else none

/-! ## Taking apart -/

def takeApartWithin : Nat → Nat → List Nat
  | 0, code => [code]
  | depth + 1, code =>
      match pairs.find? fun pair => pair.composed = code with
      | some pair => takeApartWithin depth pair.first ++ [pair.second]
      | none => [code]

def takeApart (code : Nat) : List Nat :=
  -- No composed character is more than three pairs deep.
  if isSyllable code then splitSyllable code else takeApartWithin 3 code

/-! ## Ordering -/

structure ClassRange where
  first : Nat
  last : Nat
  value : Nat

def writtenClass? (word : List Char) : Option ClassRange := do
  let (range, value) ← splitAtFirst? '=' word
  let (first, last) := writtenRange range
  return { first := first, last := last, value := valueIn 16 value }

def classes : List ClassRange :=
  (words classLines).filterMap writtenClass?

def classOf (code : Nat) : Nat :=
  match classes.find? fun range => range.first ≤ code && code ≤ range.last with
  | some range => range.value
  | none => 0

def insertMark (mark : Nat) : List Nat → List Nat
  | [] => [mark]
  | next :: rest =>
      if 0 < classOf next ∧ classOf next < classOf mark then
        next :: insertMark mark rest
      else mark :: next :: rest

def inOrder (codes : List Nat) : List Nat :=
  codes.foldr insertMark []

/-! ## Joining -/

def join? (first second : Nat) : Option Nat :=
  match joinSyllable? first second with
  | some syllable => some syllable
  | none =>
      (pairs.find? fun pair => pair.first = first ∧ pair.second = second).map
        Pair.composed

/-- Joins a character with what follows it. The marks that could not be joined
are kept in reverse; they block all that is not of a higher class. -/
def joinFrom (base : Nat) (passed : List Nat) : List Nat → List Nat
  | [] => base :: passed.reverse
  | code :: rest =>
      let blocked := passed.head?.any fun mark => classOf code ≤ classOf mark
      match if blocked then none else join? base code with
      | some composed => joinFrom composed passed rest
      | none =>
          if classOf code = 0 then base :: passed.reverse ++ joinFrom code [] rest
          else joinFrom base (code :: passed) rest

def joined : List Nat → List Nat
  | [] => []
  | code :: rest =>
      if classOf code = 0 then joinFrom code [] rest else code :: joined rest

def compose (codes : List Nat) : List Nat :=
  joined (inOrder (codes.flatMap takeApart))

example : joinSyllable? 0x1112 0x1161 = some 0xD558 := by decide
example : joinSyllable? 0xD558 0x11AB = some 0xD55C := by decide
example : splitSyllable 0xD55C = [0x1112, 0x1161, 0x11AB] := by decide

end SignalControl.Text.Composition
