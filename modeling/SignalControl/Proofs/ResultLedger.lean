import SignalControl.Controller.Operation

namespace SignalControl.Controller

/-! The results of a controller are a queue. Operations add their records at its
end, and taking the results empties it. Over any sequence of operations, what was
taken and then what is left are together what was there at first and then what was
added. -/

/-! ## What one operation does to the results -/

inductive Step (before : Controller) : Operation → Answered → Controller → Prop
  | pollStatus {extras records} :
      Step before (.pollStatus extras) (.records records) (before.record records)
  | pollInputs {records} :
      Step before .pollInputs (.records records) (before.record records)
  | requestPages {pages records} :
      Step before (.requestPages pages) (.records records) (before.record records)
  | setStage {requested result} :
      Step before (.setStage requested) (.stage result)
        (before.record [stageRecord result])
  | takeResults :
      Step before .takeResults (.taken before.results) { before with results := [] }
  | buildResponse :
      Step before .buildResponse
        (.response
          { hostId := before.hostId
            address := before.address
            results := before.results })
        before

def Answered.produced : Answered → List ResultRecord
  | .records returned => returned
  | .stage result => [stageRecord result]
  | .taken _ => []
  | .response _ => []

def Answered.removed : Answered → List ResultRecord
  | .taken results => results
  | _ => []

theorem Step.conserves {before after : Controller} {operation : Operation}
    {answered : Answered} (step : Step before operation answered after) :
    answered.removed ++ after.results = before.results ++ answered.produced := by
  cases step with
  | pollStatus => rfl
  | pollInputs => rfl
  | requestPages => rfl
  | setStage => rfl
  | takeResults => rfl
  | buildResponse => simp [Answered.removed, Answered.produced]

/-- Every operation is a step, for every device. -/
theorem perform_step {State : Type} (controller : Controller) (link : Link State)
    (operation : Operation) (device : State) :
    Step controller operation (controller.perform link operation device).outcome.2
      (controller.perform link operation device).outcome.1 := by
  cases operation with
  | pollStatus extras => exact .pollStatus
  | pollInputs => exact .pollInputs
  | requestPages pages => exact .requestPages
  | setStage requested => exact .setStage
  | takeResults => exact .takeResults
  | buildResponse => exact .buildResponse

/-! ## Sequences of operations -/

inductive History : Controller → List (Operation × Answered) → Controller → Prop
  | nil {controller} : History controller [] controller
  | cons {before middle after operation answered later} :
      Step before operation answered middle → History middle later after →
      History before ((operation, answered) :: later) after

def produced (steps : List (Operation × Answered)) : List ResultRecord :=
  steps.flatMap fun step => step.2.produced

def removed (steps : List (Operation × Answered)) : List ResultRecord :=
  steps.flatMap fun step => step.2.removed

theorem History.conserves {before after : Controller}
    {steps : List (Operation × Answered)} (history : History before steps after) :
    removed steps ++ after.results = before.results ++ produced steps := by
  induction history with
  | nil => simp [removed, produced]
  | @cons before middle after operation answered later step history induction =>
      calc removed ((operation, answered) :: later) ++ after.results
        _ = answered.removed ++ (removed later ++ after.results) := by
            simp [removed]
        _ = (answered.removed ++ middle.results) ++ produced later := by
            rw [induction, List.append_assoc]
        _ = before.results ++ produced ((operation, answered) :: later) := by
            simp [step.conserves, produced]

def performAll {State : Type} (controller : Controller) (link : Link State) :
    List Operation → Dialogue State (Controller × List (Operation × Answered))
  | [] => return (controller, [])
  | operation :: rest => do
      let (next, answered) ← controller.perform link operation
      let (last, later) ← next.performAll link rest
      return (last, (operation, answered) :: later)

theorem performAll_history {State : Type} (link : Link State)
    (operations : List Operation) (controller : Controller) (device : State) :
    History controller (controller.performAll link operations device).outcome.2
        (controller.performAll link operations device).outcome.1 ∧
      (controller.performAll link operations device).outcome.2.map Prod.fst =
        operations := by
  induction operations generalizing controller device with
  | nil => exact ⟨.nil, rfl⟩
  | cons operation rest induction =>
      have step := controller.perform_step link operation device
      rcases induction (controller.perform link operation device).outcome.1
        (controller.perform link operation device).device with ⟨history, order⟩
      refine ⟨.cons step history, ?_⟩
      simpa [performAll] using order

/-- No record is lost, doubled or moved. What the operations of a sequence took, in
order, and then the results that are left are the results that were there at first
and then the records that the operations produced, in order. Each operation is a
step: page requests produce the records that they return and a stage change produces
one record of its result, taking the results leaves none, and a response carries
those that there are and leaves them. -/
theorem performAll_conserves {State : Type} (controller : Controller)
    (link : Link State) (operations : List Operation) (device : State) :
    (controller.performAll link operations device).outcome.2.map Prod.fst =
        operations ∧
      History controller (controller.performAll link operations device).outcome.2
        (controller.performAll link operations device).outcome.1 ∧
      removed (controller.performAll link operations device).outcome.2 ++
          (controller.performAll link operations device).outcome.1.results =
        controller.results ++
          produced (controller.performAll link operations device).outcome.2 := by
  rcases performAll_history link operations controller device with ⟨history, order⟩
  exact ⟨order, history, history.conserves⟩

end SignalControl.Controller
