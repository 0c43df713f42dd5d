import SignalControl.Http.Host
import SignalControl.Http.Url.Scheme

namespace SignalControl.Http

/-! The authority of a URL: who asks, and the host and port that are asked. -/

/-! ## Users -/

structure User where
  name : List Char
  password : Option (List Char)
deriving DecidableEq

namespace User

def ofText? (text : List Char) : Option User :=
  let (name, password) :=
    match Text.splitAtFirst? ':' text with
    | some (name, password) =>
        (name, if password.isEmpty then none else some password)
    | none => (text, none)
  if name.isEmpty && password.isNone then none
  else some {
    name := percentEncode keptInUser name
    password := password.map (percentEncode keptInUser) }

def text (user : User) : List Char :=
  user.name
    ++ match user.password with
      | some password => ':' :: password
      | none => []

def isUtf8 (text : List Char) : Bool :=
  (Text.Utf8.decodeStrict? (percentDecode text)).isSome

def isReadable (user : User) : Bool :=
  isUtf8 user.name && (!user.name.isEmpty || user.password.any isUtf8)

end User

/-! ## Authorities -/

structure Authority where
  user : Option User := none
  /-- An empty host is none. -/
  host : Option Host
  port : Option Nat := none
deriving DecidableEq

namespace Authority

def splitUser (text : List Char) : Option (List Char) × List Char :=
  let tail := (text.reverse.takeWhile fun character => character ≠ '@').reverse
  if tail.length < text.length then
    (some (text.take (text.length - tail.length - 1)), tail)
  else (none, text)

def splitHost (bracketed : Bool) : List Char → List Char × List Char
  | [] => ([], [])
  | character :: rest =>
      if character = ':' ∧ !bracketed then ([], character :: rest)
      else
        let bracketed := character == '[' || (bracketed && character != ']')
        let (host, rest) := splitHost bracketed rest
        (character :: host, rest)

def host? (kind : SchemeKind) (text : List Char) : Option (Option Host) :=
  match kind, text with
  | .unknown, [] => some none
  | .unknown, _ => (Host.ofUnknown? text).map some
  | _, _ => (Host.read? text).map some

def port? (kind : SchemeKind) (text : List Char) :
    Option (Option Nat × List Char) :=
  let digits := text.takeWhile Char.isDigit
  let value := Text.digitsValue digits
  let port :=
    if digits.isEmpty ∨ kind.defaultPort? = some value then none else some value
  if value < 0x10000 then some (port, text.dropWhile Char.isDigit) else none

def hostAndPort? (kind : SchemeKind) (text : List Char) :
    Option (Option Host × Option Nat × List Char) := do
  let (hostText, rest) := splitHost false text
  let host ← host? kind hostText
  match rest with
  | ':' :: portText => do
      let (port, rest) ← port? kind portText
      -- What follows a port here can only be a path that starts with a backslash.
      if host.isSome && (rest.isEmpty || rest.head? = some '\\') then
        return (host, port, rest)
      else none
  | _ => return (host, none, [])

/-- The authority in a text that has no slash, and what is left of the text. If
a user is asked for there has to be a host, and nothing at all before an at sign
is an empty host if anything follows the text. -/
def read? (kind : SchemeKind) (text : List Char) (isFollowed : Bool) :
    Option (Authority × List Char) := do
  let (userText, hostText) := splitUser text
  let user := userText.bind User.ofText?
  let (host, port, rest) ← hostAndPort? kind hostText
  if host.isNone && (user.isSome || (userText = some [] && isFollowed)) then none
  else return ({ user := user, host := host, port := port }, rest)

def portText : Option Nat → List Char
  | none => []
  | some port => ':' :: (toString port).toList

def address (authority : Authority) : List Char :=
  (authority.host.map Host.text).getD [] ++ portText authority.port

def text (authority : Authority) : List Char :=
  (match authority.user with
    | some user => user.text ++ ['@']
    | none => [])
    ++ authority.address

end Authority

end SignalControl.Http
