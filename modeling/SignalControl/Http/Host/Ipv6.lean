import SignalControl.Text.Radix

namespace SignalControl.Http

/-! Addresses of eight groups of 16 bits in hexadecimal, with colons between
them. Two colons in a row stand for one or more groups of zeros, and the last
two groups may be written as four decimal numbers with dots between them. -/

structure Ipv6 where
  groups : Vector UInt16 8
deriving DecidableEq

namespace Ipv6

/-! ## Reading -/

def group? (text : List Char) : Option Nat :=
  if 1 ≤ text.length ∧ text.length ≤ 4 then Text.numberIn? 16 text else none

def octet? (text : List Char) : Option Nat :=
  if text.head? = some '0' ∧ text ≠ ['0'] then none
  else (Text.numeral? text).filter fun value => value < 256

def dottedGroups? (text : List Char) : Option (List Nat) :=
  match (text.splitOn '.').mapM octet? with
  | some [first, second, third, fourth] =>
      some [256 * first + second, 256 * third + fourth]
  | _ => none

def lastGroups? (text : List Char) : Option (List Nat) :=
  if text.contains '.' then dottedGroups? text
  else (group? text).map fun group => [group]

def groups? (text : List Char) : Option (List Nat) :=
  if text.isEmpty then some []
  else do
    let parts := text.splitOn ':'
    let before ← parts.dropLast.mapM group?
    let last ← lastGroups? (parts.getLast?.getD [])
    return before ++ last

def splitAtGap? : List Char → Option (List Char × List Char)
  | ':' :: ':' :: rest => some ([], rest)
  | character :: rest =>
      (splitAtGap? rest).map fun parts => (character :: parts.1, parts.2)
  | [] => none

def allGroups? (text : List Char) : Option (List Nat) :=
  match splitAtGap? text with
  | none => groups? text
  | some (before, after) => do
      if before.contains '.' then none
      let before ← groups? before
      let after ← groups? after
      let given := before.length + after.length
      if given < 8 then return before ++ List.replicate (8 - given) 0 ++ after
      else none

def read? (text : List Char) : Option Ipv6 := do
  let groups := (← allGroups? text).map UInt16.ofNat
  if complete : groups.length = 8 then
    return { groups := ⟨groups.toArray, by simpa using complete⟩ }
  else none

/-! ## Writing -/

def zerosAt (groups : List UInt16) : Nat :=
  (groups.takeWhile fun group => group = 0).length

def longestZeros (groups : List UInt16) : Nat × Nat :=
  let runs := (List.range groups.length).map fun start => zerosAt (groups.drop start)
  let longest := runs.foldl max 0
  (runs.findIdx fun run => run = longest, longest)

def groupsText (groups : List UInt16) : List Char :=
  [':'].intercalate (groups.map fun group => Nat.toDigits 16 group.toNat)

def text (address : Ipv6) : List Char :=
  let groups := address.groups.toList
  let (start, length) := longestZeros groups
  if length < 2 then groupsText groups
  else
    groupsText (groups.take start) ++ [':', ':']
      ++ groupsText (groups.drop (start + length))

example : (read? "::FFFF:1.2.3.4".toList).map text =
    some "::ffff:102:304".toList := by decide
example : (read? "0:0:1:0:0:0:1:1".toList).map text =
    some "0:0:1::1:1".toList := by decide
example : read? "1::2::3".toList = none := by decide

end Ipv6

end SignalControl.Http
