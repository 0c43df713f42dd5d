import SignalControl.Http.Domain.Direction
import SignalControl.Http.Domain.Joining
import SignalControl.Http.Domain.Mapping
import SignalControl.Http.Domain.Mark
import SignalControl.Http.Domain.Punycode

namespace SignalControl.Http.Domain

/-! Domain names in ASCII. Characters of other scripts are mapped to their usual
forms, and a label that still holds any is written as an encoded label, which a
mark at its start tells from an ordinary one. -/

def encodedMark : List Char := ['x', 'n', '-', '-']

def isEncoded (label : List Char) : Bool :=
  encodedMark.isPrefixOf label

def isForbidden (character : Char) : Bool :=
  character.toNat ≤ 0x20 || character.toNat == 0x7F
    || ['%', '#', '/', ':', '<', '>', '?', '@', '[', '\\', ']', '^', '|'].contains
      character

/-! ## Labels -/

def encodingLimit : Nat := 1000

def decodingLimit : Nat := 2000

structure Label where
  shown : List Nat
  written : List Char

def isWellFormed (label : List Nat) : Bool :=
  (label.head?.all fun first => !isMark first) && Joining.allAllowed [] label

def ofEncoded? (written : List Char) : Option Label :=
  let digits := written.drop encodedMark.length
  if digits.getLast? = some '-' ∨ decodingLimit < digits.length then none
  else
    match Punycode.decode? digits with
    | some shown =>
        let characters := shown.map Char.ofNat
        if !shown.isEmpty && shown.all Mapping.isValid
            && Text.Composition.compose shown == shown
            && !characters.any (fun character =>
              isForbidden character || character == '.')
            && !isEncoded characters && isWellFormed shown then
          some { shown := shown, written := written }
        else none
    | none => none

def label? (shown : List Nat) : Option Label :=
  let characters := shown.map Char.ofNat
  let isBasic := shown.all Punycode.isBasic
  if characters.any isForbidden then none
  else if isEncoded characters then
    if isBasic then ofEncoded? characters else none
  else if isBasic then some { shown := shown, written := characters }
  else if isWellFormed shown ∧ shown.length ≤ encodingLimit then
    some { shown := shown, written := encodedMark ++ Punycode.encode shown }
  else none

/-! ## Names -/

def fullStop : Nat := 0x2E

def labels? (name : List Char) : Option (List Label) := do
  let mapped ← (name.map Char.toNat).mapM Mapping.replacement?
  ((Text.Composition.compose mapped.flatten).splitOn fullStop).mapM label?

def written? (name : List Char) : Option (List Char) := do
  let labels ← labels? name
  if keepDirections (labels.map Label.shown) then
    some (['.'].intercalate (labels.map Label.written))
  else none

def isPlain (name : List Char) : Bool :=
  name.all (fun character => character.toNat < 0x80 && !isForbidden character)
    && !(name.splitOn '.').any isEncoded

def toAscii? (name : List Char) : Option (List Char) :=
  let lower := Text.lowerAscii name
  if isPlain lower then some lower else written? name

example : toAscii? "Device.LOCAL".toList = some "device.local".toList := by decide

end SignalControl.Http.Domain
