import SignalControl.Page
import SignalControl.Text.Blank
import SignalControl.Text.Decimal
import SignalControl.Text.Search

namespace SignalControl.PlainPage

/-! Pages in plain text. The inputs page has a row of six columns for each
input, the main page a line for each summary field. Blank lines carry nothing
and every other line is read without the white space around it. -/

/-! ## The inputs page -/

inductive Column
  | index
  | number
  | state
  | actuator
deriving DecidableEq

def Column.name : Column → String
  | .index => "index"
  | .number => "number"
  | .state => "state"
  | .actuator => "actuator"

inductive InputsError
  | badRow (row : List Char)
  | badColumn (column : Column) (row : List Char)
  | noInputs
deriving DecidableEq

def InputsError.reason : InputsError → String
  | .badRow row => "bad row " ++ Text.quoted (String.ofList row)
  | .badColumn column row =>
      "bad " ++ column.name ++ " in " ++ Text.quoted (String.ofList row)
  | .noInputs => "no inputs"

def required (value : Option α) (error : InputsError) : Except InputsError α :=
  match value with
  | some value => .ok value
  | none => .error error

/-- Reads one row. Columns are checked in the order index, number, state,
actuator; the name and the time may be any text. -/
def readRow (row : List Char) : Except InputsError InputRecord :=
  match row.splitOn ';' with
  | [index, number, name, state, time, actuator] => do
      let index ← required (Text.readUInt32? index) (.badColumn .index row)
      let number ← required (Text.readUInt32? number) (.badColumn .number row)
      let state ← required (InputState.ofText? (String.ofList state))
        (.badColumn .state row)
      let actuator ← required (Actuator.Token.ofText? (String.ofList actuator))
        (.badColumn .actuator row)
      return {
        index := index
        number := number
        name := String.ofList name
        state := state
        stateTime := String.ofList time
        actuator := actuator }
  | _ => .error (.badRow row)

def readRows : Inputs → List (List Char) → Except InputsError Inputs
  | inputs, [] => .ok inputs
  | inputs, row :: rest => do
      let record ← readRow row
      readRows (inputs.insert record.name record) rest

def readInputs (text : String) : Except InputsError Inputs := do
  let inputs ← readRows .empty (Text.rows text.toList)
  if inputs.isEmpty then .error .noInputs else return inputs

def inputsPageName : String := "inputs page"

def parseInputs : PageParser := fun text =>
  match readInputs text with
  | .ok inputs => .ok (.inputs inputs)
  | .error error => .error { page := inputsPageName, reason := error.reason }

/-! ## The main page -/

structure BadLine where
  line : List Char
deriving DecidableEq

def BadLine.reason (error : BadLine) : String :=
  "bad line " ++ Text.quoted (String.ofList error.line)

def readLine (line : List Char) : Except BadLine (String × String) :=
  match Text.splitAtFirst? '=' line with
  | some (key, value) => .ok (String.ofList key, String.ofList value)
  | none => .error ⟨line⟩

def readLines : MainStatus → List (List Char) → Except BadLine MainStatus
  | status, [] => .ok status
  | status, line :: rest => do
      let (key, value) ← readLine line
      readLines (status.insert key value) rest

def readMain (text : String) : Except BadLine MainStatus :=
  readLines .empty (Text.rows text.toList)

def mainPageName : String := "main page"

def parseMain : PageParser := fun text =>
  match readMain text with
  | .ok status => .ok (.main status)
  | .error error => .error { page := mainPageName, reason := error.reason }

/-! ## Parser sets -/

def parsers : PageParsers :=
  { main := parseMain, inputs := parseInputs }

def swappedParsers : PageParsers :=
  { main := parseInputs, inputs := parseMain }

/-! ## Rendering an inputs page -/

structure Row where
  name : String
  index : UInt32
  state : String
  actuator : String
deriving DecidableEq

def renderedTime : String := "2345563"

def Row.render (row : Row) : String :=
  ";".intercalate
    [toString row.index.toNat, toString (row.index + 1).toNat, row.name,
      row.state, renderedTime, row.actuator] ++ "\n"

def renderInputs (rows : List Row) : String :=
  String.join (rows.map Row.render)

end SignalControl.PlainPage
