import SignalControl.Text.Unprintable

namespace SignalControl.Text

/-! Quotations, as messages show a text: between double quotes, with the quote
and the backslash escaped, the four common control characters by their short
names, and every other unprintable character by its code point. -/

def escapeCodePoint (character : Char) : List Char :=
  '\\' :: 'u' :: '\x7b' :: Nat.toDigits 16 character.toNat ++ ['\x7d']

def escape (character : Char) : List Char :=
  if character = '\x22' then ['\\', '\x22']
  else if character = '\\' then ['\\', '\\']
  else if character = '\x00' then ['\\', '0']
  else if character = '\t' then ['\\', 't']
  else if character = '\r' then ['\\', 'r']
  else if character = '\n' then ['\\', 'n']
  else if isUnprintable character then escapeCodePoint character
  else [character]

def quoted (text : String) : String :=
  String.ofList ('\x22' :: text.toList.flatMap escape ++ ['\x22'])

def bracketed (members : List String) : String :=
  "[" ++ ", ".intercalate members ++ "]"

def quotedList (texts : List String) : String :=
  bracketed (texts.map quoted)

example : quoted "a\x22\\\n" = "\x22a\\\x22\\\\\\n\x22" := by decide
example : quotedList ["A", "B"] = "[\x22A\x22, \x22B\x22]" := by decide

end SignalControl.Text
