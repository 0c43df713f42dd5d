import SignalControl.Command
import SignalControl.Profile

namespace SignalControl

/-! A plan turns a freshly read inputs map into two batches of commands. The
commands of a batch may be sent together, but the second batch waits for the
first. Towards a stage, the first batch settles the phase inputs and the second
engages the manual override; a reset releases the override before it touches
the phase inputs. -/

inductive PlanError
  | missingInput (name : String)
deriving DecidableEq

def PlanError.message : PlanError → String
  | .missingInput name =>
      "input " ++ Text.quoted name ++ " is missing from the inputs page"

abbrev Batch := List Command

structure Plan where
  first : Batch
  second : Batch
deriving DecidableEq

namespace Plan

def batches (plan : Plan) : List Batch :=
  [plan.first, plan.second]

def lookup (inputs : Inputs) (name : String) : Except PlanError InputRecord :=
  match inputs.get? name with
  | some record => .ok record
  | none => .error (.missingInput name)

def lookupAll (inputs : Inputs) :
    List String → Except PlanError (List InputRecord)
  | [] => .ok []
  | name :: rest => do
      let record ← lookup inputs name
      let others ← lookupAll inputs rest
      return record :: others

/-! ## Releasing the override -/

/-- The release rule: an active flashing input is switched off, an active
forced-on or an idle forced-off one goes back to flashing, and any other is
left alone. -/
def releaseMode (record : InputRecord) : Option Actuator.Mode :=
  match record.state, record.mode with
  | .active, .flashing => some .off
  | .active, .on => some .flashing
  | .idle, .off => some .flashing
  | _, _ => none

def release (record : InputRecord) : Option Command :=
  (releaseMode record).map record.command

def ofReset (profile : Profile) (inputs : Inputs) : Except PlanError Plan := do
  let manual ← lookup inputs profile.manual
  let phases ← lookupAll inputs profile.stageInputs.names
  return { first := (release manual).toList, second := phases.filterMap release }

/-! ## Moving to a stage -/

def forceOn (record : InputRecord) : Option Command :=
  if record.isForcedOn then none else some (record.command .on)

def clear (record : InputRecord) : Option Command :=
  if record.state ≠ .idle ∨ record.isForcedOn then some (record.command .off)
  else none

def competitors (profile : Profile) (target : String) : List String :=
  profile.stageInputs.names.filter fun name => name ≠ target

def ofPhase (profile : Profile) (inputs : Inputs) (phase : Nat) :
    Except PlanError Plan := do
  let targetName := profile.phaseInput phase
  let target ← lookup inputs targetName
  let others ← lookupAll inputs (competitors profile targetName)
  let manual ← lookup inputs profile.manual
  return {
    first := (forceOn target).toList ++ others.filterMap clear
    second := (forceOn manual).toList }

end Plan

def plan (profile : Profile) (inputs : Inputs) (stage : Stage) :
    Except PlanError Plan :=
  if stage.isReset then Plan.ofReset profile inputs
  else Plan.ofPhase profile inputs stage.number

end SignalControl
