import SignalControl.Envelope
import SignalControl.Plan

namespace SignalControl

/-! Why a stage change was not confirmed. -/

inductive InputsUnavailable
  | failed (error : EnvelopeError)
  | noInputs
deriving DecidableEq

def InputsUnavailable.message : InputsUnavailable → String
  | .failed error => error.message
  | .noInputs => "parser returned no inputs"

inductive StageError
  | outOfRange (error : Stage.OutOfRange)
  | inputsUnavailable (cause : InputsUnavailable)
  | unplanned (error : PlanError)
  | rejected (faults : List String)
deriving DecidableEq

def StageError.message : StageError → String
  | .outOfRange error => error.message
  | .inputsUnavailable cause => "inputs page unavailable: " ++ cause.message
  | .unplanned error => error.message
  | .rejected faults => "failed to set inputs: " ++ ", ".intercalate faults

end SignalControl
