import SignalControl.Controller.StageError
import SignalControl.Http.Status
import SignalControl.Level

namespace SignalControl

/-! Everything a controller logs. Requests and routine steps are reported at
DEBUG, every fault at WARN, and a confirmed stage at INFO. -/

inductive LogEvent
  | fetching (url : String)
  | posting (url : String) (fields : List (String × String))
  | unexpectedStatus (code : Nat)
  | dispatchingPages (count : Nat) (base : String)
  | pageFailed (base label : String) (error : EnvelopeError)
  | planned (stage : Stage) (plan : Plan)
  | batchEmpty (position : Nat) (stage : Stage)
  | commandJudged (name : String) (verdict : Verdict)
  | batchCommitted (position : Nat) (succeeded : List String)
  | retrying (attempt limit : Nat) (faulted : List String)
  | stageConfirmed (base : String) (stage : Stage)
  | stageFailed (base : String) (requested : Int) (error : StageError)
deriving DecidableEq

namespace LogEvent

def level : LogEvent → Level
  | .pageFailed _ _ _ => .warn
  | .commandJudged _ .accepted => .debug
  | .commandJudged _ _ => .warn
  | .retrying _ _ _ => .warn
  | .stageConfirmed _ _ => .info
  | .stageFailed _ _ _ => .warn
  | _ => .debug

def quotedFields (fields : List (String × String)) : String :=
  Text.bracketed (fields.map fun field =>
    "(" ++ Text.quoted field.1 ++ ", " ++ Text.quoted field.2 ++ ")")

def quotedBatches (batches : List Batch) : String :=
  Text.bracketed (batches.map fun batch =>
    Text.quotedList (batch.map Command.name))

def message : LogEvent → String
  | .fetching url => "GET " ++ url
  | .posting url fields => "POST " ++ url ++ " " ++ quotedFields fields
  | .unexpectedStatus code => "Unexpected status " ++ Http.statusText code
  | .dispatchingPages count base =>
      "Dispatching " ++ toString count ++ " page request(s) to " ++ base
  | .pageFailed base label error => base ++ " " ++ label ++ ": " ++ error.message
  | .planned stage plan =>
      "Planned stage " ++ stage.text ++ ": " ++ quotedBatches plan.batches
  | .batchEmpty position stage =>
      "Batch " ++ toString position ++ " for stage " ++ stage.text ++ " is empty"
  | .commandJudged name .accepted => name ++ " accepted"
  | .commandJudged name (.refused (some alert)) => name ++ " refused: " ++ alert
  | .commandJudged name (.refused none) => name ++ " refused without alert"
  | .commandJudged name (.failed cause) => name ++ " failed: " ++ cause.message
  | .batchCommitted position succeeded =>
      "Batch " ++ toString position ++ " committed: " ++ Text.quotedList succeeded
  | .retrying attempt limit faulted =>
      "Batch attempt " ++ toString attempt ++ "/" ++ toString limit
        ++ " faulted on " ++ Text.quotedList faulted ++ "; retrying"
  | .stageConfirmed base stage =>
      base ++ ": stage " ++ stage.text ++ " confirmed"
  | .stageFailed base requested error =>
      base ++ ": set_stage(" ++ toString requested ++ ") failed: "
        ++ error.message

def line (event : LogEvent) : String :=
  event.level.name ++ " " ++ event.message

end LogEvent

end SignalControl
