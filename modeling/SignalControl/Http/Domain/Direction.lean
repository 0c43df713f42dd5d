import SignalControl.Http.Domain.Direction.Table

namespace SignalControl.Http.Domain

/-! Directions of writing. If any label of a domain name is written from right
to left, every label has to keep to one direction, so that the name looks the
same wherever it is shown. -/

inductive Direction
  | left
  | right
  | arabicNumber
  | europeanNumber
  | neutral
  | mark
deriving DecidableEq

namespace Direction

def rightRanges : List (Nat × Nat) :=
  Text.writtenRanges rightLines

def arabicNumberRanges : List (Nat × Nat) :=
  Text.writtenRanges arabicNumberLines

def europeanNumberRanges : List (Nat × Nat) :=
  Text.writtenRanges europeanNumberLines

def neutralRanges : List (Nat × Nat) :=
  Text.writtenRanges neutralLines

def markRanges : List (Nat × Nat) :=
  Text.writtenRanges markLines

def ofCode (code : Nat) : Direction :=
  if Text.inRanges code rightRanges then .right
  else if Text.inRanges code arabicNumberRanges then .arabicNumber
  else if Text.inRanges code europeanNumberRanges then .europeanNumber
  else if Text.inRanges code neutralRanges then .neutral
  else if Text.inRanges code markRanges then .mark
  else .left

def isRightward (direction : Direction) : Bool :=
  direction == .right || direction == .arabicNumber

def keepsLeft (directions : List Direction) : Bool :=
  directions.all (fun direction => !direction.isRightward)
    && directions.getLast?.all fun last => [left, europeanNumber].contains last

def keepsRight (directions : List Direction) : Bool :=
  !directions.contains left
    && !(directions.contains europeanNumber && directions.contains arabicNumber)
    && directions.getLast?.all fun last =>
      [right, europeanNumber, arabicNumber].contains last

def keepsOne (directions : List Direction) : Bool :=
  match directions with
  | [] => true
  | first :: rest =>
      let counted := (rest.reverse.dropWhile fun direction => direction = mark).reverse
      match first with
      | left => keepsLeft counted
      | right => keepsRight counted
      | _ => false

example : keepsOne [left, neutral, europeanNumber, mark] = true := by decide
example : keepsOne [right, europeanNumber, arabicNumber] = false := by decide
example : keepsOne [europeanNumber, right] = false := by decide

end Direction

def keepDirections (labels : List (List Nat)) : Bool :=
  let directions := labels.map (List.map Direction.ofCode)
  !(directions.any fun label => label.any Direction.isRightward)
    || directions.all Direction.keepsOne

end SignalControl.Http.Domain
