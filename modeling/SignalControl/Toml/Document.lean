import SignalControl.Toml.Date
import SignalControl.Toml.DateTable
import SignalControl.Toml.Draft
import SignalControl.Toml.Layout

namespace SignalControl.Toml

/-! Whole documents: keys, nested values, lines, and the table that the lines
build up together. -/

/-! ## Keys -/

def isBareKeyCharacter (character : Char) : Bool :=
  character.isAlphanum || character == '_' || character == '-'

def bareKey? : Reader String := fun text =>
  let key := text.takeWhile isBareKeyCharacter
  if key.isEmpty then none
  else some (String.ofList key, text.dropWhile isBareKeyCharacter)

def simpleKey? : Reader String := fun text =>
  (quotedKey? text).or (bareKey? text)

def keyParts (text : List Char) : Option (List String × List Char) :=
  match simpleKey? (skipBlanks text) with
  | none => none
  | some (part, rest) =>
      match skipBlanks rest with
      | '.' :: more =>
          if more.length < text.length then
            (keyParts more).map fun read => (part :: read.1, read.2)
          else none
      | after => some ([part], after)
termination_by text.length

def key? : Reader (List String × String) := fun text => do
  let (parts, rest) ← keyParts text
  let last ← parts.getLast?
  if parts.length < depthLimit then some ((parts.dropLast, last), rest) else none

/-! ## Values -/

def pair? (value : Reader Value) : Reader Draft.Pair := fun text => do
  let ((path, key), rest) ← key? text
  let (value, rest) ← value (skipBlanks (← expect? '=' rest))
  return ({ path := path, key := key, value := value }, rest)

def inlinePairs (value : Reader Value) (text : List Char) :
    Option (List Draft.Pair × List Char) :=
  match pair? value text with
  | none => none
  | some (pair, rest) =>
      match skipBlanks rest with
      | '\x7d' :: after => some ([pair], after)
      -- Unlike in an array, another item has to follow a comma.
      | ',' :: more =>
          if more.length < text.length then
            (inlinePairs value more).map fun read => (pair :: read.1, read.2)
          else none
      | _ => none
termination_by text.length

def inlineTable? (value : Reader Value) : Reader Value := fun text => do
  let (pairs, rest) ←
    match skipBlanks text with
    | '\x7d' :: rest => some ([], rest)
    | start => inlinePairs value start
  let table ← (Draft.empty .given).addPairs pairs
  return (.table table.finish, rest)

def arrayItems (value : Reader Value) (text : List Char) :
    Option (List Value × List Char) :=
  match skipLines text with
  | ']' :: after => some ([], after)
  | start =>
      match value start with
      | none => none
      | some (item, rest) =>
          match skipLines rest with
          | ']' :: after => some ([item], after)
          | ',' :: more =>
              if more.length < text.length then
                (arrayItems value more).map fun read => (item :: read.1, read.2)
              else none
          | _ => none
termination_by text.length

def taken (text rest : List Char) : String :=
  String.ofList (text.take (text.length - rest.length))

def boolean? : Reader Value
  | 't' :: 'r' :: 'u' :: 'e' :: rest => some (.boolean true, rest)
  | 'f' :: 'a' :: 'l' :: 's' :: 'e' :: rest => some (.boolean false, rest)
  | _ => none

def number? : Reader Value := fun text =>
  match date? text with
  | some (date, rest) => some (.date date, rest)
  | none =>
      match fraction? text with
      | some ((), rest) => some (.fraction (taken text rest), rest)
      | none => (integer? text).map fun (value, rest) => (.integer value, rest)

def plainValue? : Reader Value := fun text =>
  ((string? text).map fun (value, rest) => (.text value, rest)).or
    ((boolean? text).or (number? text))

def value : Nat → Reader Value
  | depth + 1, '[' :: rest =>
      (arrayItems (value depth) rest).map fun (items, rest) => (.array items, rest)
  | depth + 1, '\x7b' :: rest => inlineTable? (value depth) rest
  | _, text => plainValue? text

/-! ## Lines -/

inductive Line
  | pair (pair : Draft.Pair)
  | table (path : List String) (key : String)
  | element (path : List String) (key : String)

def header? : Reader Line
  | '[' :: '[' :: rest => do
      let ((path, key), rest) ← key? rest
      return (.element path key, ← expect? ']' (← expect? ']' rest))
  | '[' :: rest => do
      let ((path, key), rest) ← key? rest
      return (.table path key, ← expect? ']' rest)
  | _ => none

def line? : Reader Line := fun text =>
  match text with
  | '[' :: _ => header? text
  | _ =>
      (pair? (value (depthLimit - 1)) text).map fun (pair, rest) =>
        (.pair pair, rest)

def lines (text : List Char) : Option (List Line) :=
  match skipLines text with
  | [] => some []
  | start =>
      match line? start with
      | none => none
      | some (line, rest) =>
          match endOfLine? rest with
          | none => none
          | some after =>
              if after.length < text.length then
                (lines after).map fun others => line :: others
              else none
termination_by text.length

/-! ## Tables -/

def leadingPairs : List Line → List Draft.Pair × List Line
  | .pair pair :: rest =>
      let (pairs, others) := leadingPairs rest
      (pair :: pairs, others)
  | others => ([], others)

theorem length_leadingPairs_le (lines : List Line) :
    (leadingPairs lines).2.length ≤ lines.length := by
  fun_induction leadingPairs lines with
  | case1 pair rest pairs others equal induction =>
      rw [equal] at induction
      simp only [List.length_cons]
      dsimp only at induction ⊢
      omega
  | case2 => exact Nat.le_refl _

def addTables (document : Draft) : List Line → Option Draft
  | [] => some document
  | .pair pair :: rest => do
      let document ← document.addPair pair
      addTables document rest
  | .table path key :: rest => do
      let document ← document.addTable path key (leadingPairs rest).1
      addTables document (leadingPairs rest).2
  | .element path key :: rest => do
      let document ← document.addElement path key (leadingPairs rest).1
      addTables document (leadingPairs rest).2
termination_by lines => lines.length
decreasing_by
  · simp
  · have shorter := length_leadingPairs_le rest
    simp only [List.length_cons]
    omega
  · have shorter := length_leadingPairs_le rest
    simp only [List.length_cons]
    omega

def byteOrderMark : Char := '\ufeff'

def withoutMark : List Char → List Char
  | first :: rest => if first = byteOrderMark then rest else first :: rest
  | [] => []

def read? (text : String) : Option (List (String × Value)) := do
  let lines ← lines (withoutMark text.toList)
  let document ← addTables (Draft.empty .given) lines
  entriesWithDates? document.finish

end SignalControl.Toml
