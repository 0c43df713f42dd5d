import SignalControl.Attempt
import SignalControl.Controller.PageRequest

namespace SignalControl.Controller

/-! Moving a controller to a stage. The commands are planned from an inputs page
read by the same call. A batch is sent as a whole until an attempt has no
faults or no attempt is left, and a batch that still has faults ends the
change, so a later batch is never sent after a faulted one. -/

open Dialogue

def verdicts (completion : Completion count) (batch : Batch) :
    List (String × Verdict) :=
  (completion.settled batch).map fun pair =>
    (pair.1.name, (commandEnvelope pair.1 pair.2).verdict)

def judgedEvent (settled : Command × Answer) : LogEvent :=
  .commandJudged settled.1.name (commandEnvelope settled.1 settled.2).verdict

def dispatchEvents (controller : Controller) (dispatched : Command × Answer) :
    List LogEvent :=
  (controller.commandCall dispatched.1).started ::
    if dispatched.2.isUnsent then [judgedEvent dispatched] else []

def arrivalEvents (arrived : Command × Answer) : List LogEvent :=
  if arrived.2.isUnsent then []
  else arrived.2.notice?.toList ++ [judgedEvent arrived]

def sendOnce (controller : Controller) (link : Link State) (batch : Batch) :
    Dialogue State Outcome := do
  let completion ← makeCalls link (batch.map controller.commandCall)
  logAll ((completion.answered batch).flatMap controller.dispatchEvents)
  logAll ((completion.arrived batch).flatMap arrivalEvents)
  return ((Attempt.start (batch.map Command.name)).settleAll
    (verdicts completion batch)).finish

/-- Sends a batch, from the attempt of the given number on. Every attempt sends
the whole batch again. -/
def sendFrom (controller : Controller) (link : Link State) (batch : Batch)
    (attempt : UInt32) : Dialogue State Outcome := do
  let outcome ← controller.sendOnce link batch
  match outcome with
  | .committed _ => return outcome
  | .faulted _ faulted =>
      if allowed : controller.retry.allowsAfter attempt then
        logEvent (.retrying (attempt.toNat + 1)
          controller.retry.maxAttempts.toNat faulted)
        controller.sendFrom link batch (RetryPolicy.next attempt)
      else return outcome
termination_by controller.retry.maxAttempts.toNat - attempt.toNat
decreasing_by
  have advanced := RetryPolicy.toNat_next_of_allowsAfter allowed
  have bound := RetryPolicy.toNat_lt_of_allowsAfter allowed
  omega

def sendBatch (controller : Controller) (link : Link State) (batch : Batch) :
    Dialogue State Outcome :=
  controller.sendFrom link batch 0

def sendBatches (controller : Controller) (link : Link State) (stage : Stage) :
    Nat → List Batch → Dialogue State (Except StageError Stage)
  | _, [] => return .ok stage
  | position, batch :: rest => do
      if batch.isEmpty then
        logEvent (.batchEmpty position stage)
        controller.sendBatches link stage (position + 1) rest
      else
        match ← controller.sendBatch link batch with
        | .committed succeeded =>
            logEvent (.batchCommitted position succeeded)
            controller.sendBatches link stage (position + 1) rest
        | .faulted _ faulted => return .error (.rejected faulted)

def polledInputs (envelope : Envelope) : Except InputsUnavailable Inputs :=
  match envelope.error with
  | some error => .error (.failed error)
  | none =>
      match envelope.inputs? with
      | some inputs => .ok inputs
      | none => .error .noInputs

def pollForStage (controller : Controller) (link : Link State) :
    Dialogue State (Except InputsUnavailable Inputs) := do
  let answer ← makeCall link (controller.pageCall .inputs)
  return polledInputs (controller.pageEnvelope .inputs answer)

def changeStage (controller : Controller) (link : Link State)
    (requested : Int) : Dialogue State (Except StageError Stage) := do
  match Stage.ofInt requested with
  | .error error => return .error (.outOfRange error)
  | .ok stage =>
      match ← controller.pollForStage link with
      | .error cause => return .error (.inputsUnavailable cause)
      | .ok inputs =>
          match plan controller.profile inputs stage with
          | .error error => return .error (.unplanned error)
          | .ok plan =>
              logEvent (.planned stage plan)
              controller.sendBatches link stage 0 plan.batches

/-! ## The reported result -/

def stageLabel : String := "set_stage"

def stageRecord : Except StageError Stage → ResultRecord
  | .ok stage =>
      { label := stageLabel
        data := some (.object [(stageLabel, .integer stage.number)]) }
  | .error error => { label := stageLabel, error := some error.message }

def stageEvent (controller : Controller) (requested : Int) :
    Except StageError Stage → LogEvent
  | .ok stage => .stageConfirmed controller.baseUrl stage
  | .error error => .stageFailed controller.baseUrl requested error

/-- Moves the controller to a stage, where 0 releases the manual override.
Exactly one record is kept, whatever comes of it. -/
def setStage (controller : Controller) (link : Link State) (requested : Int) :
    Dialogue State (Controller × Except StageError Stage) := do
  let result ← controller.changeStage link requested
  logEvent (controller.stageEvent requested result)
  return (controller.record [stageRecord result], result)

end SignalControl.Controller
