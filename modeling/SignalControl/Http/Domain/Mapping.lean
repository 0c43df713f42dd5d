import SignalControl.Http.Domain.Mapping.Table

namespace SignalControl.Http.Domain.Mapping

/-! What becomes of a character in a domain name: it stands for itself, for
other characters, or for nothing; every other character is not allowed. Capital
letters stand for small ones, and compatibility forms for the usual ones. -/

/-- Each character of a range, or every `step`-th one, is replaced: by the
target, or, if the target is shifted, by the code points as far behind it as the
character is behind the first one of the range. -/
structure Row where
  first : Nat
  last : Nat
  step : Nat
  target : List Nat
  isShifted : Bool

def writtenTarget (word : List Char) : List Nat :=
  (word.splitOn ',').map (Text.valueIn 16)

def writtenSource (word : List Char) : (Nat × Nat) × Nat :=
  match Text.splitAtFirst? '/' word with
  | some (range, step) => (Text.writtenRange range, Text.valueIn 16 step)
  | none => (Text.writtenRange word, 1)

def writtenRow? (word : List Char) : Option Row :=
  match Text.splitAtFirst? '=' word with
  | some (source, target) => some (row source target false)
  | none =>
      (Text.splitAtFirst? '>' word).map fun (source, target) =>
        row source target true
where
  row (source target : List Char) (isShifted : Bool) : Row :=
    let ((first, last), step) := writtenSource source
    { first := first
      last := last
      step := step
      target := writtenTarget target
      isShifted := isShifted }

def rows : List Row :=
  (Text.words mappedLines).filterMap writtenRow?

def valid : List (Nat × Nat) :=
  Text.writtenRanges validLines

def ignored : List (Nat × Nat) :=
  Text.writtenRanges ignoredLines

def Row.replacement? (row : Row) (code : Nat) : Option (List Nat) :=
  if row.first ≤ code ∧ code ≤ row.last ∧ (code - row.first) % row.step = 0 then
    some (if row.isShifted then
      row.target.map fun target => target + (code - row.first)
    else row.target)
  else none

def isValid (code : Nat) : Bool :=
  Text.inRanges code valid

def replacement? (code : Nat) : Option (List Nat) :=
  if isValid code then some [code]
  else if Text.inRanges code ignored then some []
  else rows.findSome? fun row => row.replacement? code

example : (writtenRow? "100-12E/2>101".toList).bind (fun row => row.replacement? 0x102) =
    some [0x103] := by decide
example : (writtenRow? "132-133=69,6A".toList).bind (fun row => row.replacement? 0x133) =
    some [0x69, 0x6A] := by decide

end SignalControl.Http.Domain.Mapping
