import SignalControl.Envelope

namespace SignalControl

/-! The one-line description of an envelope for diagnostics: every value is
shown by the name of its type or case, with fields between braces. -/

namespace Description

def field (name value : String) : String :=
  name ++ ": " ++ value

def structured (name : String) (fields : List String) : String :=
  name ++ " \x7b " ++ ", ".intercalate fields ++ " \x7d"

def applied (name argument : String) : String :=
  name ++ "(" ++ argument ++ ")"

def optional (describe : α → String) : Option α → String
  | none => "None"
  | some value => applied "Some" (describe value)

def table (describe : α → String) (table : NameTable α) : String :=
  "\x7b" ++ ", ".intercalate (table.entries.map fun entry =>
    field (Text.quoted entry.1) (describe entry.2)) ++ "\x7d"

end Description

open Description

def Actuator.Mode.description : Actuator.Mode → String
  | .flashing => "Flashing"
  | .off => "Off"
  | .on => "On"

def Actuator.Token.description : Actuator.Token → String
  | .label mode => applied "Label" mode.description
  | .value mode => applied "Value" mode.description

def InputState.description : InputState → String
  | .idle => "Idle"
  | .active => "Active"

def InputRecord.description (record : InputRecord) : String :=
  structured "InputRecord" [
    field "index" (toString record.index.toNat),
    field "number" (toString record.number.toNat),
    field "name" (Text.quoted record.name),
    field "state" record.state.description,
    field "state_time" (Text.quoted record.stateTime),
    field "actuator" record.actuator.description]

def Page.description : Page → String
  | .main status => applied "Main" (table Text.quoted status)
  | .inputs records =>
      structured "Inputs" [field "inputs" (table InputRecord.description records)]

def ExchangeFailure.description : ExchangeFailure → String
  | .timeout => "Timeout"
  | .wrongControllerType => "BadControllerType"
  | .unreachable reason => applied "Unreachable" (Text.quoted reason)

def ParseError.description (error : ParseError) : String :=
  structured "ParseError" [
    field "page" (Text.quoted error.page),
    field "reason" (Text.quoted error.reason)]

def EnvelopeError.description : EnvelopeError → String
  | .exchange cause => applied "Transport" cause.description
  | .parse cause => applied "Parse" cause.description

def Envelope.description (envelope : Envelope) : String :=
  structured "RequestEnvelope" [
    field "label" (Text.quoted envelope.label),
    field "protocol" (Text.quoted protocol),
    field "resolved" (toString envelope.isResolved),
    field "status" (optional (fun status => toString status) envelope.status),
    field "processed" (optional Page.description envelope.processed),
    field "error" (optional EnvelopeError.description envelope.error)]

end SignalControl
