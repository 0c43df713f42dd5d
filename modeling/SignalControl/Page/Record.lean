import SignalControl.Json
import SignalControl.Page

namespace SignalControl

/-! The JSON form of inputs and pages. A record is an object with one member for
each column; a main page is the object of its fields, and an inputs page has the
single member `inputs`. -/

/-! ## Writing -/

def NameTable.toJson (encode : α → Json) (table : NameTable α) : Json :=
  .object (table.entries.map fun entry => (entry.1, encode entry.2))

def InputRecord.toJson (record : InputRecord) : Json :=
  .object [
    ("index", .integer record.index.toNat),
    ("number", .integer record.number.toNat),
    ("name", .text record.name),
    ("state", .text record.state.text),
    ("state_time", .text record.stateTime),
    ("actuator", .text record.actuator.text)]

def Page.toJson : Page → Json
  | .main status => status.toJson .text
  | .inputs records => .object [("inputs", records.toJson InputRecord.toJson)]

/-! ## Reading -/

def InputState.ofJson? (value : Json) : Option InputState :=
  value.choice?.bind InputState.ofText?

def Actuator.Token.ofJson? (value : Json) : Option Actuator.Token :=
  value.text?.bind Actuator.Token.ofText?

def PageKind.ofJson? (value : Json) : Option PageKind :=
  value.choice?.bind PageKind.ofLabel?

namespace InputRecord

def ofColumns? (index number name state time actuator : Json) :
    Option InputRecord := do
  let index ← index.uint32?
  let number ← number.uint32?
  let name ← name.text?
  let state ← InputState.ofJson? state
  let time ← time.text?
  let actuator ← Actuator.Token.ofJson? actuator
  return {
    index := index
    number := number
    name := name
    state := state
    stateTime := time
    actuator := actuator }

/-- A record is given as an object, where unknown members count for nothing, or
as the array of its columns. -/
def ofJson? : Json → Option InputRecord
  | .object members => do
      let index ← Json.member? members "index"
      let number ← Json.member? members "number"
      let name ← Json.member? members "name"
      let state ← Json.member? members "state"
      let time ← Json.member? members "state_time"
      let actuator ← Json.member? members "actuator"
      ofColumns? index number name state time actuator
  | .array [index, number, name, state, time, actuator] =>
      ofColumns? index number name state time actuator
  | _ => none

end InputRecord

end SignalControl
