import SignalControl.Text.Radix
import SignalControl.Text.Search

namespace SignalControl.Text

/-! Sets of code points, given as inclusive ranges in increasing order. A long
set is written as lines of words, where a word is one code point or the two
ends of a range with a hyphen between them, all in hexadecimal. -/

def inRanges (code : Nat) : List (Nat × Nat) → Bool
  | [] => false
  | (first, last) :: rest =>
      if code < first then false
      else if code ≤ last then true
      else inRanges code rest

def words (lines : List String) : List (List Char) :=
  lines.flatMap fun line => line.toList.splitOn ' '

def writtenRange (word : List Char) : Nat × Nat :=
  match splitAtFirst? '-' word with
  | some (first, last) => (valueIn 16 first, valueIn 16 last)
  | none => (valueIn 16 word, valueIn 16 word)

def writtenRanges (lines : List String) : List (Nat × Nat) :=
  (words lines).map writtenRange

example : writtenRanges ["30-39 5F", "61-7A"] =
    [(0x30, 0x39), (0x5F, 0x5F), (0x61, 0x7A)] := by decide

end SignalControl.Text
