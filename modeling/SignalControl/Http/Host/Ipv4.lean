import SignalControl.Text.Radix

namespace SignalControl.Http

/-! Addresses of 32 bits, written as four numbers with dots between them. When
one is read, each number may be octal or hexadecimal, and the last one also
stands for all that is missing. -/

structure Ipv4 where
  value : UInt32
deriving DecidableEq

namespace Ipv4

/-! ## Reading -/

/-- A zero in front makes a number octal, and `0x` makes it hexadecimal, where
no digits at all are zero. -/
def number? : List Char → Option Nat
  | [] => none
  | ['0'] => some 0
  | '0' :: 'x' :: digits => Text.numberIn? 16 digits
  | '0' :: digits => Text.numberIn? 8 digits
  | digits => Text.numberIn? 10 digits

def parts (name : List Char) : List (List Char) :=
  let parts := name.splitOn '.'
  if parts.getLast? = some [] then parts.dropLast else parts

def endsInNumber (name : List Char) : Bool :=
  (parts name).getLast?.any fun last =>
    (!last.isEmpty && last.all Char.isDigit) || (number? last).isSome

def value? (places : Nat) : List Nat → Option Nat
  | [] => none
  | [last] => if last < 256 ^ places then some last else none
  | number :: rest =>
      match places with
      | 0 => none
      | places + 1 =>
          if number < 256 then
            (value? places rest).map fun value => number * 256 ^ places + value
          else none

def read? (name : List Char) : Option Ipv4 := do
  let numbers ← (parts name).mapM number?
  if numbers.length ≤ 4 then
    return { value := UInt32.ofNat (← value? 4 numbers) }
  else none

/-! ## Writing -/

def octets (address : Ipv4) : List Nat :=
  [24, 16, 8, 0].map fun shift => (address.value.toNat >>> shift) % 256

def text (address : Ipv4) : List Char :=
  ['.'].intercalate (address.octets.map fun octet => (toString octet).toList)

example : (read? "0x7f.1".toList).map text = some "127.0.0.1".toList := by decide
example : (read? "256".toList).map text = some "0.0.1.0".toList := by decide
example : read? "1.2.3.256".toList = none := by decide

end Ipv4

end SignalControl.Http
