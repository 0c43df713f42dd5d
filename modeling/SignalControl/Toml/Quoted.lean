import SignalControl.Text.Radix
import SignalControl.Toml.Value

namespace SignalControl.Toml

/-! Strings. Basic strings, between double quotes, have escapes; literal
strings, between single quotes, have none. Either may be written on one line or,
with tripled quotes, on several, where up to two quotes may stand anywhere and a
line feed right after the opening quotes does not count. -/

def scalar? (digits : List Char) : Option Char :=
  (Text.numberIn? 16 digits).bind fun code =>
    if Nat.isValidChar code then some (Char.ofNat code) else none

def escape? : Reader Char
  | 'b' :: rest => some ('\x08', rest)
  | 't' :: rest => some ('\t', rest)
  | 'n' :: rest => some ('\n', rest)
  | 'f' :: rest => some ('\x0c', rest)
  | 'r' :: rest => some ('\r', rest)
  | '\x22' :: rest => some ('\x22', rest)
  | '\\' :: rest => some ('\\', rest)
  | 'u' :: a :: b :: c :: d :: rest =>
      (scalar? [a, b, c, d]).map fun character => (character, rest)
  | 'U' :: a :: b :: c :: d :: e :: f :: g :: h :: rest =>
      (scalar? [a, b, c, d, e, f, g, h]).map fun character => (character, rest)
  | _ => none

theorem length_lt_of_escape? {text rest : List Char} {character : Char}
    (escaped : escape? text = some (character, rest)) :
    rest.length < text.length := by
  unfold escape? at escaped
  split at escaped
  case h_8 | h_9 =>
    rcases Option.map_eq_some_iff.mp escaped with ⟨_, _, equal⟩
    cases equal
    simp only [List.length_cons]
    omega
  case h_10 => cases escaped
  all_goals
    cases escaped
    exact Nat.lt_succ_self _

/-! ## On one line -/

def basicString (text : List Char) : Option (List Char × List Char) :=
  match text with
  | [] => none
  | '\x22' :: rest => some ([], rest)
  | '\\' :: rest =>
      match _escaped : escape? rest with
      | none => none
      | some (character, after) =>
          (basicString after).map fun read => (character :: read.1, read.2)
  | character :: rest =>
      if isPlain character then
        (basicString rest).map fun read => (character :: read.1, read.2)
      else none
termination_by text.length
decreasing_by
  · have shorter := length_lt_of_escape? _escaped
    simp only [List.length_cons]
    omega
  · simp only [List.length_cons]
    omega

def literalString : List Char → Option (List Char × List Char)
  | [] => none
  | '\x27' :: rest => some ([], rest)
  | character :: rest =>
      if isPlain character then
        (literalString rest).map fun read => (character :: read.1, read.2)
      else none

/-! ## On several lines -/

def skipFold : List Char → List Char
  | ' ' :: rest => skipFold rest
  | '\t' :: rest => skipFold rest
  | '\n' :: rest => skipFold rest
  | '\r' :: '\n' :: rest => skipFold rest
  | text => text

theorem length_skipFold_le (text : List Char) :
    (skipFold text).length ≤ text.length := by
  fun_induction skipFold text with
  | case1 rest induction => simp only [List.length_cons]; omega
  | case2 rest induction => simp only [List.length_cons]; omega
  | case3 rest induction => simp only [List.length_cons]; omega
  | case4 rest induction => simp only [List.length_cons]; omega
  | case5 => exact Nat.le_refl _

def fold? (text : List Char) : Option (List Char) :=
  (lineEnd? (skipBlanks text)).map skipFold

theorem length_lt_of_fold? {text rest : List Char}
    (folded : fold? text = some rest) : rest.length < text.length := by
  rcases Option.map_eq_some_iff.mp folded with ⟨after, ended, equal⟩
  have first := length_lt_of_lineEnd? ended
  have second : (skipBlanks text).length ≤ text.length :=
    length_dropWhile_le isBlank text
  have third := length_skipFold_le after
  rw [equal] at third
  omega

def basicText (text : List Char) : Option (List Char × List Char) :=
  match text with
  | [] => none
  | '\x22' :: '\x22' :: '\x22' :: '\x22' :: '\x22' :: rest =>
      some (['\x22', '\x22'], rest)
  | '\x22' :: '\x22' :: '\x22' :: '\x22' :: rest => some (['\x22'], rest)
  | '\x22' :: '\x22' :: '\x22' :: rest => some ([], rest)
  | '\\' :: rest =>
      match _folded : fold? rest with
      | some after => basicText after
      | none =>
          match _escaped : escape? rest with
          | none => none
          | some (character, after) =>
              (basicText after).map fun read => (character :: read.1, read.2)
  | '\r' :: '\n' :: rest =>
      (basicText rest).map fun read => ('\n' :: read.1, read.2)
  | character :: rest =>
      if isPlain character || character == '\n' then
        (basicText rest).map fun read => (character :: read.1, read.2)
      else none
termination_by text.length
decreasing_by
  · have shorter := length_lt_of_fold? _folded
    simp only [List.length_cons]
    omega
  · have shorter := length_lt_of_escape? _escaped
    simp only [List.length_cons]
    omega
  · simp only [List.length_cons]
    omega
  · simp only [List.length_cons]
    omega

def literalText : List Char → Option (List Char × List Char)
  | [] => none
  | '\x27' :: '\x27' :: '\x27' :: '\x27' :: '\x27' :: rest =>
      some (['\x27', '\x27'], rest)
  | '\x27' :: '\x27' :: '\x27' :: '\x27' :: rest => some (['\x27'], rest)
  | '\x27' :: '\x27' :: '\x27' :: rest => some ([], rest)
  | '\r' :: '\n' :: rest =>
      (literalText rest).map fun read => ('\n' :: read.1, read.2)
  | character :: rest =>
      if isPlain character || character == '\n' then
        (literalText rest).map fun read => (character :: read.1, read.2)
      else none

def skipFirstLineEnd (text : List Char) : List Char :=
  (lineEnd? text).getD text

/-! ## Keys and values -/

def quotedKey? : Reader String
  | '\x22' :: rest =>
      (basicString rest).map fun read => (String.ofList read.1, read.2)
  | '\x27' :: rest =>
      (literalString rest).map fun read => (String.ofList read.1, read.2)
  | _ => none

def string? : Reader String
  | '\x22' :: '\x22' :: '\x22' :: rest =>
      (basicText (skipFirstLineEnd rest)).map fun read =>
        (String.ofList read.1, read.2)
  | '\x27' :: '\x27' :: '\x27' :: rest =>
      (literalText (skipFirstLineEnd rest)).map fun read =>
        (String.ofList read.1, read.2)
  | text => quotedKey? text

end SignalControl.Toml
