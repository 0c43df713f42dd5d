import SignalControl.Controller.StageChange

namespace SignalControl.Controller

/-! Everything that can be asked of a controller, and what each request gives
back. -/

open Dialogue

inductive Operation
  | pollStatus (extras : List PageKind)
  | pollInputs
  | requestPages (pages : List PageKind)
  | setStage (requested : Int)
  | takeResults
  | buildResponse
deriving DecidableEq

inductive Answered
  | records (records : List ResultRecord)
  | stage (result : Except StageError Stage)
  | taken (records : List ResultRecord)
  | response (response : Response)

def takeResults (controller : Controller) : Controller × List ResultRecord :=
  ({ controller with results := [] }, controller.results)

def perform (controller : Controller) (link : Link State) :
    Operation → Dialogue State (Controller × Answered)
  | .pollStatus extras => do
      let (controller, records) ← controller.pollStatus link extras
      return (controller, .records records)
  | .pollInputs => do
      let (controller, records) ← controller.pollInputs link
      return (controller, .records records)
  | .requestPages pages => do
      let (controller, records) ← controller.requestPages link pages
      return (controller, .records records)
  | .setStage requested => do
      let (controller, result) ← controller.setStage link requested
      return (controller, .stage result)
  | .takeResults =>
      let (controller, records) := controller.takeResults
      return (controller, .taken records)
  | .buildResponse => return (controller, .response controller.response)

end SignalControl.Controller
