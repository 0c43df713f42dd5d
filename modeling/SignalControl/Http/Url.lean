import SignalControl.Http.Url.Authority
import SignalControl.Http.Url.Path

namespace SignalControl.Http

/-! Absolute URLs in normal form. Reading one lowers its scheme, brings its host
into the usual form, drops a default port, resolves dot segments, and
percent-encodes what may not stand in its place; existing percent signs are
left alone. -/

structure Url where
  scheme : List Char
  /-- A URL without an authority, such as an e-mail address, names no host. -/
  authority : Option Authority
  path : List Char
  query : Option (List Char)
  fragment : Option (List Char)
deriving DecidableEq

namespace Url

/-! ## Reading -/

def clean (text : List Char) : List Char :=
  let isEdge := fun character : Char => decide (character.toNat ≤ 0x20)
  let started := text.dropWhile isEdge
  ((started.reverse.dropWhile isEdge).reverse).filter fun character =>
    character ≠ '\t' ∧ character ≠ '\n' ∧ character ≠ '\r'

def splitOptional (separator : Char) (text : List Char) :
    List Char × Option (List Char) :=
  match Text.splitAtFirst? separator text with
  | some (before, after) => (before, some after)
  | none => (text, none)

structure Hierarchy where
  authority : Option Authority
  path : List Char

namespace Hierarchy

def withAuthority? (kind : SchemeKind) (text : List Char) (isFollowed : Bool) :
    Option Hierarchy := do
  let authority := text.takeWhile fun character => !kind.isSeparator character
  let rest := text.drop authority.length
  let (authority, left) ← Authority.read? kind authority
    (isFollowed || !rest.isEmpty)
  return { authority := authority, path := Path.normal kind (left ++ rest) }

def fileHost? (text : List Char) : Option (Option Host × List Char) :=
  let name := text.takeWhile fun character => !SchemeKind.file.isSeparator character
  if name.isEmpty || Path.isDrive name then some (none, text)
  else
    (Host.read? name).map fun host =>
      if host = .name "localhost".toList then (none, text.drop name.length)
      else (some host, text.drop name.length)

def ofFile (host : Option Host) (segments : List (List Char)) : Hierarchy :=
  let segments := Path.resolve .file segments
  let host := if segments.head?.any Path.isDrive then none else host
  { authority := some { host := host }, path := Path.fileText segments }

def file? (text : List Char) : Option Hierarchy :=
  match text with
  | first :: second :: rest =>
      if SchemeKind.file.isSeparator first && SchemeKind.file.isSeparator second then
        (fileHost? rest).map fun (host, path) =>
          match host with
          | some host => ofFile host (Path.split .file path)
          -- The slash of the path counts as an empty segment, so no drive comes first.
          | none => ofFile none (path.splitOnP SchemeKind.file.isSeparator)
      else some (ofFile none (Path.split .file text))
  | _ => some (ofFile none (Path.split .file text))

def unknown? (text : List Char) (isFollowed : Bool) : Option Hierarchy :=
  match text with
  | '/' :: '/' :: rest => withAuthority? .unknown rest isFollowed
  | '/' :: _ => some { authority := none, path := Path.normal .unknown text }
  | _ => some { authority := none, path := percentEncode isPlain text }

def read? (kind : SchemeKind) (text : List Char) (isFollowed : Bool) :
    Option Hierarchy :=
  match kind with
  | .server _ => withAuthority? kind (text.dropWhile kind.isSeparator) isFollowed
  | .file => file? text
  | .unknown => unknown? text isFollowed

end Hierarchy

def read? (text : String) : Option Url := do
  let (scheme, rest) ← splitScheme? (clean text.toList)
  let kind := SchemeKind.ofScheme scheme
  let (rest, fragment) := splitOptional '#' rest
  let (rest, query) := splitOptional '?' rest
  let hierarchy ← Hierarchy.read? kind rest (query.isSome || fragment.isSome)
  return {
    scheme := scheme
    authority := hierarchy.authority
    path := hierarchy.path
    query := query.map (percentEncode (keptInQuery kind.isKnown))
    fragment := fragment.map (percentEncode keptInFragment) }

/-! ## Parts -/

def host? (url : Url) : Option Host :=
  url.authority.bind Authority.host

def address (url : Url) : String :=
  String.ofList ((url.authority.map Authority.address).getD [])

def withoutUser (url : Url) : Url :=
  { url with authority := url.authority.map fun authority =>
      if authority.user.any User.isReadable then { authority with user := none }
      else authority }

def isHttp (url : Url) : Bool :=
  url.scheme == "http".toList

def isHttps (url : Url) : Bool :=
  url.scheme == "https".toList

/-! ## Writing -/

def optionalText (mark : Char) : Option (List Char) → List Char
  | none => []
  | some part => mark :: part

def target (url : Url) : String :=
  String.ofList (url.path ++ optionalText '?' url.query)

def authorityText (url : Url) : List Char :=
  match url.authority with
  | some authority => '/' :: '/' :: authority.text
  -- A path that would be taken for an authority gets a dot segment before it.
  | none => if ['/', '/'].isPrefixOf url.path then ['/', '.'] else []

def text (url : Url) : String :=
  String.ofList (url.scheme ++ ':' :: url.authorityText) ++ url.target
    ++ String.ofList (optionalText '#' url.fragment)

example : (read? "HTTP://h:80?q").map text = some "http://h/?q" := by decide
example : (read? "http://h:8x/").map text = none := by decide
example : (read? "http://%ff@h:8/a/../b c#f").map text =
    some "http://%ff@h:8/b%20c#f" := by decide
example : (read? "mailto:x").map text = some "mailto:x" := by decide

end Url

end SignalControl.Http
