import SignalControl.Text.Search

namespace SignalControl.Http

/-! Schemes of URLs. Those of servers are known with their default ports, and so
is that of files; their URLs are written by common rules, and take a backslash
for a slash. -/

inductive SchemeKind
  | server (defaultPort : Nat)
  | file
  | unknown
deriving DecidableEq

namespace SchemeKind

def servers : List (List Char × Nat) := [
  ("http".toList, 80), ("https".toList, 443), ("ws".toList, 80),
  ("wss".toList, 443), ("ftp".toList, 21)]

def ofScheme (scheme : List Char) : SchemeKind :=
  match servers.lookup scheme with
  | some port => .server port
  | none => if scheme = "file".toList then .file else .unknown

def isKnown (kind : SchemeKind) : Bool :=
  kind ≠ .unknown

def defaultPort? : SchemeKind → Option Nat
  | .server port => some port
  | _ => none

def isSeparator (kind : SchemeKind) (character : Char) : Bool :=
  character == '/' || (kind.isKnown && character == '\\')

end SchemeKind

def isSchemeCharacter (character : Char) : Bool :=
  character.isAlphanum || ['+', '-', '.'].contains character

def splitScheme? (text : List Char) : Option (List Char × List Char) :=
  match Text.splitAtFirst? ':' text with
  | some (first :: others, rest) =>
      if first.isAlpha && others.all isSchemeCharacter then
        some (Text.lowerAscii (first :: others), rest)
      else none
  | _ => none

end SignalControl.Http
