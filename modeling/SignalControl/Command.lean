import SignalControl.Input

namespace SignalControl

/-! A command sets the actuator of one input. It is posted as a form with two
fields, the row of the input and the digit of the mode. -/

structure Command where
  input : String
  index : UInt32
  mode : Actuator.Mode
deriving DecidableEq

structure Payload where
  name : String
  fields : List (String × String)
deriving DecidableEq

namespace Payload

def rowField : String := "par_name"

def modeField : String := "par_value"

/-- The mode may be given in either alphabet; the form always carries the
protocol digit. -/
def build (index : UInt32) (fieldPrefix : String) (desired : Actuator.Token)
    (name : String) : Payload :=
  { name := Actuator.display name desired.toProtocol
    fields :=
      [(rowField, fieldPrefix ++ toString index.toNat),
        (modeField, desired.toProtocol.text)] }

end Payload

def Command.payload (fieldPrefix : String) (command : Command) : Payload :=
  .build command.index fieldPrefix (.value command.mode) command.input

def Command.name (command : Command) : String :=
  Actuator.display command.input (.value command.mode)

theorem Command.payload_name (fieldPrefix : String) (command : Command) :
    (command.payload fieldPrefix).name = command.name := rfl

def InputRecord.command (record : InputRecord) (mode : Actuator.Mode) : Command :=
  { input := record.name, index := record.index, mode := mode }

end SignalControl
