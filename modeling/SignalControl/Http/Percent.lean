import SignalControl.Text.Radix
import SignalControl.Text.Utf8

namespace SignalControl.Http

/-! Percent encoding: an octet that may not stand for itself is written as a
percent sign and two upper-case hexadecimal digits. -/

def hexDigit (value : Nat) : Char :=
  if value < 10 then Char.ofNat ('0'.toNat + value)
  else Char.ofNat ('A'.toNat + (value - 10))

def percentOctet (octet : UInt8) : List Char :=
  ['%', hexDigit (octet.toNat / 16), hexDigit (octet.toNat % 16)]

def isAscii (character : Char) : Bool :=
  character.toNat < 0x80

def percentCharacter (kept : Char → Bool) (character : Char) : List Char :=
  if kept character then [character]
  else (Text.Utf8.encode [character]).flatMap percentOctet

def percentEncode (kept : Char → Bool) (text : List Char) : List Char :=
  text.flatMap (percentCharacter kept)

def percentDecode : List Char → List UInt8
  | '%' :: high :: low :: rest =>
      match Text.hexValue? high, Text.hexValue? low with
      | some high, some low => UInt8.ofNat (16 * high + low) :: percentDecode rest
      | _, _ => Text.Utf8.encode ['%'] ++ percentDecode (high :: low :: rest)
  | character :: rest => Text.Utf8.encode [character] ++ percentDecode rest
  | [] => []

/-! ## Parts of a URL -/

def isPlain (character : Char) : Bool :=
  0x20 ≤ character.toNat && character.toNat < 0x7F

def keptBut (encoded : List Char) (character : Char) : Bool :=
  isPlain character && !encoded.contains character

def keptInFragment : Char → Bool :=
  keptBut [' ', '\x22', '<', '>', '\x60']

def keptInPath : Char → Bool :=
  keptBut [' ', '\x22', '<', '>', '\x60', '#', '?', '\x7b', '\x7d']

def keptInQuery (special : Bool) : Char → Bool :=
  keptBut ([' ', '\x22', '#', '<', '>'] ++ if special then ['\x27'] else [])

def keptInUser : Char → Bool :=
  keptBut [' ', '\x22', '<', '>', '\x60', '#', '?', '\x7b', '\x7d', '/', ':', ';',
    '=', '@', '[', '\\', ']', '^', '|']

/-! ## Forms -/

def formCharacter (character : Char) : List Char :=
  if character = ' ' then ['+']
  else percentCharacter
    (fun kept => kept.isAlphanum || ['*', '-', '.', '_'].contains kept) character

def formText (text : String) : List Char :=
  text.toList.flatMap formCharacter

def formField (field : String × String) : List Char :=
  formText field.1 ++ '=' :: formText field.2

def formEncode (fields : List (String × String)) : String :=
  String.ofList (['&'].intercalate (fields.map formField))

def formContentType : String := "application/x-www-form-urlencoded"

example : formEncode [("a b", "~*"), ("k", "В")] = "a+b=%7E*&k=%D0%92" := by
  decide

end SignalControl.Http
