import SignalControl.Http.Domain
import SignalControl.Http.Host.Ipv4
import SignalControl.Http.Host.Ipv6
import SignalControl.Http.Percent

namespace SignalControl.Http

/-! Hosts of URLs: an address, in one of two notations, or a name. -/

inductive Host
  | name (text : List Char)
  | ipv4 (address : Ipv4)
  | ipv6 (address : Ipv6)
deriving DecidableEq

namespace Host

def ofBracketed? (text : List Char) : Option Host :=
  if text.getLast? = some ']' then (Ipv6.read? text.dropLast).map .ipv6 else none

def ofDomain? (text : List Char) : Option Host := do
  let text ← Text.Utf8.decodeStrict? (percentDecode text)
  let name ← Domain.toAscii? text.toList
  if name.isEmpty then none
  else if Ipv4.endsInNumber name then return .ipv4 (← Ipv4.read? name)
  else return .name name

def read? : List Char → Option Host
  | '[' :: rest => ofBracketed? rest
  | text => ofDomain? text

def isForbidden (character : Char) : Bool :=
  ['\x00', '\t', '\n', '\r', ' ', '#', '/', ':', '<', '>', '?', '@', '[', '\\',
    ']', '^', '|'].contains character

def ofUnknown? : List Char → Option Host
  | '[' :: rest => ofBracketed? rest
  | text =>
      if text.any isForbidden then none
      else some (.name (percentEncode isPlain text))

def text : Host → List Char
  | .name text => text
  | .ipv4 address => address.text
  | .ipv6 address => '[' :: address.text ++ [']']

def isAddress : Host → Bool
  | .name _ => false
  | _ => true

end Host

end SignalControl.Http
