import SignalControl.Http.Percent
import SignalControl.Http.Url.Scheme

namespace SignalControl.Http.Path

/-! Paths of URLs, as segments after a slash each. Dot segments are resolved;
they never remove a segment that names a drive, which is a letter with a colon
or a vertical bar after it. -/

/-! ## Segments -/

def dotForm : List Char → List Char
  | '%' :: '2' :: 'e' :: rest => '.' :: dotForm rest
  | '%' :: '2' :: 'E' :: rest => '.' :: dotForm rest
  | character :: rest => character :: dotForm rest
  | [] => []

def afterDrive? : List Char → Option (List Char)
  | letter :: mark :: rest =>
      if letter.isAlpha && (mark == ':' || mark == '|') then some rest else none
  | _ => none

def isDrive (segment : List Char) : Bool :=
  afterDrive? segment == some []

def startsWithDrive (segment : List Char) : Bool :=
  -- A backslash ends the name of a drive even where it does not end a segment.
  (afterDrive? segment).any fun rest => rest.isEmpty || rest.head? == some '\\'

def goUp : List (List Char) → List (List Char)
  | [] => []
  | last :: before => if startsWithDrive last then last :: before else before

def goDown (kind : SchemeKind) (resolved : List (List Char))
    (segment : List Char) : List (List Char) :=
  if kind = .file ∧ resolved.isEmpty ∧ isDrive segment then
    [segment.take 1 ++ [':']]
  else segment :: resolved

/-- Resolves dot segments; the segments so far are kept in reverse. A path that
ends in a dot segment keeps its final slash. -/
def resolveFrom (kind : SchemeKind) (resolved : List (List Char)) :
    List (List Char) → List (List Char)
  | [] => resolved.reverse
  | segment :: rest =>
      let isDots := dotForm segment = ['.', '.']
      let isDot := dotForm segment = ['.']
      let next :=
        if isDots then goUp resolved
        else if isDot then resolved
        else goDown kind resolved segment
      if (isDots ∨ isDot) ∧ rest.isEmpty then ([] :: next).reverse
      else resolveFrom kind next rest

def resolve (kind : SchemeKind) (segments : List (List Char)) :
    List (List Char) :=
  resolveFrom kind [] segments

def split (kind : SchemeKind) (text : List Char) : List (List Char) :=
  let relative :=
    match text with
    | [] => []
    | first :: rest => if kind.isSeparator first then rest else first :: rest
  relative.splitOnP kind.isSeparator

/-! ## Texts -/

def segmentsText (segments : List (List Char)) : List Char :=
  segments.flatMap fun segment => '/' :: percentEncode keptInPath segment

def normal (kind : SchemeKind) (text : List Char) : List Char :=
  if text.isEmpty && !kind.isKnown then []
  else segmentsText (resolve kind (split kind text))

def fileText (segments : List (List Char)) : List Char :=
  '/' :: (segmentsText segments).dropWhile fun character => character = '/'

example : normal .unknown "/a/../b ".toList = "/b%20".toList := by decide
example : normal .unknown "/C:/..".toList = "/C:/".toList := by decide
example : fileText (resolve .file [['C', '|'], ['x']]) = "/C:/x".toList := by decide

end SignalControl.Http.Path
