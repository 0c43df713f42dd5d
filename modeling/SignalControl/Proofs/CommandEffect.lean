import SignalControl.Proofs.PlanCommands

namespace SignalControl

/-! What carrying out commands makes of a map of inputs. A command sets the actuator
of the record of its row and leaves everything else as it is. -/

def InputRecord.obey (record : InputRecord) (command : Command) : InputRecord :=
  if command.index = record.index then
    { record with actuator := .label command.mode }
  else record

def InputRecord.after (record : InputRecord) (batch : Batch) : InputRecord :=
  batch.foldl obey record

def Inputs.obey (inputs : Inputs) (command : Command) : Inputs :=
  inputs.map fun record => record.obey command

def Inputs.after (inputs : Inputs) (batch : Batch) : Inputs :=
  batch.foldl obey inputs

namespace InputRecord

variable {record : InputRecord} {command : Command} {batch : Batch}

@[simp] theorem after_cons :
    record.after (command :: batch) = (record.obey command).after batch := rfl

theorem obey_of_index_eq (addressed : command.index = record.index) :
    record.obey command = { record with actuator := .label command.mode } :=
  if_pos addressed

@[simp] theorem obey_command (mode : Actuator.Mode) :
    record.obey (record.command mode) = { record with actuator := .label mode } :=
  obey_of_index_eq rfl

theorem mode_after_release (record : InputRecord) :
    (record.after (Plan.release record).toList).mode =
      (Plan.releaseMode record).getD record.mode := by
  rw [Plan.release]
  cases Plan.releaseMode record with
  | none => rfl
  | some mode =>
      rw [Option.map_some, Option.toList_some, after_cons, obey_command]
      rfl

end InputRecord

theorem Inputs.get?_after (inputs : Inputs) (batch : Batch) (name : String) :
    (inputs.after batch).get? name =
      (inputs.get? name).map fun record => record.after batch :=
  inputs.get?_foldl_map InputRecord.obey batch name

end SignalControl
