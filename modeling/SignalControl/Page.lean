import SignalControl.Input

namespace SignalControl

/-! The readable pages of the controller, what they are turned into, and the
parsers that do it. Parsers are supplied from outside, so all that is known of
one is its result type. -/

inductive PageKind
  | main
  | inputs
deriving DecidableEq, Repr

def PageKind.label : PageKind → String
  | .main => "main_page"
  | .inputs => "inputs_page"

def PageKind.ofLabel? (label : String) : Option PageKind :=
  if label = PageKind.main.label then some .main
  else if label = PageKind.inputs.label then some .inputs
  else none

abbrev MainStatus := NameTable String

inductive Page
  | main (status : MainStatus)
  | inputs (inputs : Inputs)
deriving DecidableEq

def Page.inputs? : Page → Option Inputs
  | .main _ => none
  | .inputs records => some records

structure ParseError where
  page : String
  reason : String
deriving DecidableEq

def ParseError.message (error : ParseError) : String :=
  "failed to parse " ++ error.page ++ ": " ++ error.reason

abbrev PageParser := String → Except ParseError Page

structure PageParsers where
  main : PageParser
  inputs : PageParser

def PageParsers.forKind (parsers : PageParsers) : PageKind → PageParser
  | .main => parsers.main
  | .inputs => parsers.inputs

def PageParsers.description (_ : PageParsers) : String :=
  "PageParsers \x7b .. \x7d"

/-! ## Routes -/

structure Routes where
  mainPage : String := "/hvi?file=m001a.hvi&pos1=0&pos2=-1"
  inputsPage : String := "/hvi?file=cell1020.hvi&pos1=0&pos2=-1"
  setInputs : String := "/hvi?file=data.hvi&page=cell1020.hvi"
deriving DecidableEq

def Routes.page (routes : Routes) : PageKind → String
  | .main => routes.mainPage
  | .inputs => routes.inputsPage

end SignalControl
