import SignalControl.Text.Radix

namespace SignalControl.Http.Domain.Punycode

/-! Writing code points as ASCII letters, digits and hyphens. The ASCII
characters of a label come first and, if there are any, a hyphen. Then the other
characters are put in one at a time, by increasing code point and from left to
right. Each is written as the number of skipped possibilities, in digits whose
weights adapt to the size of the numbers so far. -/

/-! ## Digits -/

def digit (value : Nat) : Char :=
  if value < 26 then Char.ofNat ('a'.toNat + value)
  else Char.ofNat ('0'.toNat + (value - 26))

def digitValue? (character : Char) : Option Nat :=
  if 'a' ≤ character && character ≤ 'z' then some (character.toNat - 'a'.toNat)
  else if character.isDigit then some (character.toNat - '0'.toNat + 26)
  else none

def threshold (position bias : Nat) : Nat :=
  if position ≤ bias then 1
  else if bias + 26 ≤ position then 26
  else position - bias

theorem one_le_threshold (position bias : Nat) : 1 ≤ threshold position bias := by
  unfold threshold
  split
  · omega
  · split <;> omega

def scaled (number position : Nat) : Nat × Nat :=
  if 455 < number then scaled (number / 35) (position + 36) else (number, position)
termination_by number
decreasing_by exact Nat.div_lt_self (by omega) (by omega)

def adapted (number count : Nat) (isFirst : Bool) : Nat :=
  let damped := if isFirst then number / 700 else number / 2
  let (rest, position) := scaled (damped + damped / count) 0
  position + 36 * rest / (rest + 38)

/-! ## Writing -/

def digits (bias position number : Nat) : List Char :=
  let limit := threshold position bias
  if number < limit then [digit number]
  else
    digit (limit + (number - limit) % (36 - limit))
      :: digits bias (position + 36) ((number - limit) / (36 - limit))
termination_by number
decreasing_by
  have positive := one_le_threshold position bias
  have smaller := Nat.div_le_self (number - threshold position bias)
    (36 - threshold position bias)
  omega

/-- How far the writing of a label has come: the digits, the number of
characters in place, and the possibilities skipped since the last one. -/
structure Progress where
  written : List Char
  placed : Nat
  skipped : Nat
  bias : Nat

def isBasic (code : Nat) : Bool :=
  code < 0x80

def pass (basics current : Nat) (progress : Progress) (code : Nat) : Progress :=
  if code < current then { progress with skipped := progress.skipped + 1 }
  else if code = current then
    { written := progress.written ++ digits progress.bias 36 progress.skipped
      placed := progress.placed + 1
      skipped := 0
      bias := adapted progress.skipped (progress.placed + 1)
        (progress.placed = basics) }
  else progress

def writeFrom (label : List Nat) (basics least : Nat) :
    List Nat → Progress → Progress
  | [], progress => progress
  | current :: rest, progress =>
      let reached := { progress with
        skipped := progress.skipped + (current - least) * (progress.placed + 1) }
      let passed := label.foldl (pass basics current) reached
      writeFrom label basics (current + 1) rest
        { passed with skipped := passed.skipped + 1 }

def encode (label : List Nat) : List Char :=
  let basic := label.filter isBasic
  let others := ((label.filter fun code => !isBasic code).mergeSort).eraseDups
  let progress := writeFrom label basic.length 0x80 others
    { written := [], placed := basic.length, skipped := 0, bias := 72 }
  basic.map Char.ofNat ++ (if basic.isEmpty then [] else ['-']) ++ progress.written

/-! ## Reading -/

def number? (bias position weight : Nat) :
    List Char → Option (Nat × List Char)
  | [] => none
  | character :: rest => do
      let value ← digitValue? character
      let limit := threshold position bias
      if value < limit then return (value * weight, rest)
      else
        let (number, rest) ← number? bias (position + 36) (weight * (36 - limit)) rest
        return (value * weight + number, rest)

/-- Puts characters into a label. The next one has at least the given code point
and, if it has just that one, at least the given position. -/
def readFrom (text : List Char) (label : List Nat) (code position bias : Nat) :
    Option (List Nat) :=
  if text.isEmpty then some label
  else
    match number? bias 36 1 text with
    | none => none
    | some (number, rest) =>
        let count := label.length + 1
        let target := position + number
        let code := code + target / count
        if !Nat.isValidChar code then none
        else if rest.length < text.length then
          let place := target % count
          readFrom rest (label.insertIdx place code) code (place + 1)
            (adapted number count (position = 0))
        else none
termination_by text.length

def splitBasic (text : List Char) : List Char × List Char :=
  let tail := (text.reverse.takeWhile fun character => character ≠ '-').reverse
  let basic := text.take (text.length - tail.length - 1)
  if basic.isEmpty then ([], text) else (basic, tail)

def decode? (text : List Char) : Option (List Nat) :=
  let (basic, tail) := splitBasic text
  readFrom tail (basic.map Char.toNat) 0x80 0 72

end SignalControl.Http.Domain.Punycode
