import SignalControl.Text.Decimal

namespace SignalControl.Text

/-! Numerals in bases up to sixteen. -/

def hexValue? (character : Char) : Option Nat :=
  if character.isDigit then some (digitValue character)
  else if 'a' ≤ character && character ≤ 'f' then
    some (character.toNat - 'a'.toNat + 10)
  else if 'A' ≤ character && character ≤ 'F' then
    some (character.toNat - 'A'.toNat + 10)
  else none

def digitIn (base : Nat) (character : Char) : Bool :=
  (hexValue? character).any fun value => value < base

def valueIn (base : Nat) (digits : List Char) : Nat :=
  digits.foldl (fun value digit => base * value + (hexValue? digit).getD 0) 0

def numberIn? (base : Nat) (digits : List Char) : Option Nat :=
  if digits.all (digitIn base) then some (valueIn base digits) else none

example : numberIn? 16 "fF".toList = some 255 := by decide
example : numberIn? 8 "8".toList = none := by decide

end SignalControl.Text
