import SignalControl.Config.Client
import SignalControl.Text.Utf8
import SignalControl.Toml.Document
import SignalControl.Toml.Layout

namespace SignalControl.Config

/-! A configuration is one section of a TOML file. A file that is asked for by
name has to have the section; of the default locations, the first that exists
and has the section is taken. -/

def sectionKey : String := "peek-http"

/-! ## Sections -/

inductive SectionError
  | invalidDocument
  | invalidSection
deriving DecidableEq

/-- A section has to be a table that could be a document of its own, or a
date, of which nothing is known. -/
def readTable (value : Toml.Value) : Except SectionError Client :=
  let isSection :=
    match value with
    | .table entries => Toml.isDocument entries
    | .date _ => true
    | _ => false
  if isSection then
    match Client.ofSetting? .ignored (.ofToml value) with
    | some client => .ok client
    | none => .error .invalidSection
  else .error .invalidSection

def sectionOf (document : List (String × Toml.Value)) (key : String) :
    Except SectionError (Option Client) :=
  match document.lookup key with
  | none => .ok none
  | some value => (readTable value).map some

def readSection (text key : String) : Except SectionError (Option Client) :=
  match Toml.read? text with
  | none => .error .invalidDocument
  | some document => sectionOf document key

/-! ## Files -/

inductive Location
  | absent
  | directory
  | file (octets : List UInt8)

inductive ReadFailure
  | notFound
  | isDirectory
  | notUtf8
deriving DecidableEq

def ReadFailure.message : ReadFailure → String
  | .notFound => "No such file or directory (os error 2)"
  | .isDirectory => "Is a directory (os error 21)"
  | .notUtf8 => "stream did not contain valid UTF-8"

inductive LoadError
  | unreadable (path : String) (cause : ReadFailure)
  | invalid (path : String) (cause : SectionError)
  | missingSection (path : String)
deriving DecidableEq

def SectionError.message : SectionError → String
  | .invalidDocument => "the text is not a valid document"
  | .invalidSection => "the section is not a valid configuration"

def LoadError.message : LoadError → String
  | .unreadable path cause =>
      "Failed to read config file " ++ path ++ ": " ++ cause.message
  | .invalid path cause =>
      "Failed to parse config file " ++ path ++ ": " ++ cause.message
  | .missingSection path =>
      "Failed to parse config file " ++ path ++ ": missing [" ++ sectionKey
        ++ "] section"

def readLocation : Location → Except ReadFailure String
  | .absent => .error .notFound
  | .directory => .error .isDirectory
  | .file octets =>
      match Text.Utf8.decodeStrict? octets with
      | some text => .ok text
      | none => .error .notUtf8

def loadSection (path : String) (location : Location) :
    Except LoadError (Option Client) :=
  match readLocation location with
  | .error cause => .error (.unreadable path cause)
  | .ok text =>
      match readSection text sectionKey with
      | .error cause => .error (.invalid path cause)
      | .ok client? => .ok client?

def load (path : String) (location : Location) : Except LoadError Client :=
  match loadSection path location with
  | .error error => .error error
  | .ok (some client) => .ok client
  | .ok none => .error (.missingSection path)

/-- Loads the first location that exists and has the section, and says which it
was. Without one, every setting keeps its default. -/
def discover : List (String × Location) →
    Except LoadError (Client × Option String)
  | [] => .ok ({}, none)
  | (_, .absent) :: rest => discover rest
  | (path, location) :: rest =>
      match loadSection path location with
      | .error error => .error error
      | .ok (some client) => .ok (client, some path)
      | .ok none => discover rest

/-! ## Default locations -/

def fileName : String := "peek-rs.toml"

def directoryName : String := "peek-rs"

def searchPaths (userDirectory : String) : List String := [
  fileName,
  userDirectory ++ "/" ++ directoryName ++ "/" ++ fileName,
  "/etc/" ++ directoryName ++ "/" ++ fileName]

end SignalControl.Config
