import SignalControl.Proofs.BatchSequence

namespace SignalControl

/-! The rounds and the result of a whole stage change, for every device. The
inputs page is read once, and its answer decides whether there is a plan to
carry out. -/

/-! ## Reading the inputs -/

def Round.ReadsInputs (round : Round) (controller : Controller)
    (inputs : Inputs) : Prop :=
  ∃ body, round.answers = [.response Http.ok (.ok body)] ∧
    controller.parsers.inputs body = .ok (.inputs inputs)

def Round.LeadsTo (round : Round) (controller : Controller) (stage : Stage)
    (plan : Plan) : Prop :=
  ∃ inputs, round.ReadsInputs controller inputs ∧
    SignalControl.plan controller.profile inputs stage = .ok plan

theorem Round.ReadsInputs.unique {round : Round} {controller : Controller}
    {inputs others : Inputs} (reads : round.ReadsInputs controller inputs)
    (readsOthers : round.ReadsInputs controller others) : inputs = others := by
  rcases reads with ⟨body, answers, parsed⟩
  rcases readsOthers with ⟨otherBody, otherAnswers, otherParsed⟩
  have sameBody : body = otherBody := by simpa [answers] using otherAnswers
  subst sameBody
  simpa [parsed] using otherParsed

theorem Round.LeadsTo.unique {round : Round} {controller : Controller}
    {stage : Stage} {plan other : Plan} (leads : round.LeadsTo controller stage plan)
    (leadsOther : round.LeadsTo controller stage other) : plan = other := by
  rcases leads with ⟨inputs, reads, planned⟩
  rcases leadsOther with ⟨otherInputs, otherReads, otherPlanned⟩
  rw [reads.unique otherReads] at planned
  exact Except.ok.inj (planned.symm.trans otherPlanned)

namespace Controller

variable {State : Type} (controller : Controller) (link : Link State)
  (device : State)

theorem polledInputs_eq_ok_iff {answer : Answer} {inputs : Inputs} :
    polledInputs (controller.pageEnvelope .inputs answer) = .ok inputs ↔
      ∃ body, answer = .response Http.ok (.ok body) ∧
        controller.parsers.inputs body = .ok (.inputs inputs) := by
  rcases answer.reply_or_failure with ⟨body, rfl, replied⟩ | ⟨cause, failed, noReply⟩
  · rw [pageEnvelope_eq, replied]
    cases parsed : controller.parsers.forKind .inputs body with
    | error cause =>
        have reading : controller.parsers.inputs body = .error cause := parsed
        rw [Envelope.resolve_request_of_refused PageKind.inputs.label parsed]
        simp [polledInputs, reading]
    | ok page =>
        have reading : controller.parsers.inputs body = .ok page := parsed
        rw [Envelope.resolve_request_of_parsed PageKind.inputs.label parsed]
        cases page <;> simp [polledInputs, Envelope.inputs?, Page.inputs?, reading]
  · rw [pageEnvelope_eq, failed, Envelope.resolve_request_of_failed]
    simp [polledInputs, noReply]

def poll : Round :=
  { calls := [controller.pageCall .inputs]
    completion := (link.exchange device [controller.pageCall .inputs]).1 }

def pollAnswer : Answer :=
  (link.exchange device [controller.pageCall .inputs]).1.answers[0]

theorem pollForStage_rounds :
    (controller.pollForStage link device).rounds =
      [controller.poll link device] := by
  simp [pollForStage, Dialogue.makeCall, Dialogue.logEvent, poll]

theorem pollForStage_outcome :
    (controller.pollForStage link device).outcome =
      polledInputs
        (controller.pageEnvelope .inputs (controller.pollAnswer link device)) := by
  simp [pollForStage, Dialogue.makeCall, Dialogue.logEvent, pollAnswer]

theorem poll_answers :
    (controller.poll link device).answers = [controller.pollAnswer link device] := by
  apply List.ext_getElem
  · simp [Round.answers, poll]
  · intro position inside _
    have first : position = 0 := by
      simp [Round.answers, poll] at inside
      omega
    subst first
    simp [Round.answers, poll, pollAnswer]

theorem pollForStage_outcome_eq_ok_iff {inputs : Inputs} :
    (controller.pollForStage link device).outcome = .ok inputs ↔
      (controller.poll link device).ReadsInputs controller inputs := by
  rw [pollForStage_outcome, polledInputs_eq_ok_iff, Round.ReadsInputs,
    poll_answers]
  simp only [List.cons.injEq, and_true]

end Controller

/-! ## Carrying out a plan -/

/-- The rounds of a plan: the attempts of its first batch and, only if that was
committed, those of its second. -/
def PlanRounds (controller : Controller) (plan : Plan)
    (rounds : List Round) : Prop :=
  ∃ firstRounds secondRounds, rounds = firstRounds ++ secondRounds ∧
    BatchRounds controller plan.first firstRounds ∧
    (Committed controller plan.first firstRounds ∧
        BatchRounds controller plan.second secondRounds ∨
      ¬ Committed controller plan.first firstRounds ∧ secondRounds = [])

def PlanCommitted (controller : Controller) (plan : Plan)
    (rounds : List Round) : Prop :=
  ∃ firstRounds secondRounds, rounds = firstRounds ++ secondRounds ∧
    Committed controller plan.first firstRounds ∧
    Committed controller plan.second secondRounds

def PlanExhausted (controller : Controller) (plan : Plan)
    (rounds : List Round) (faults : List String) : Prop :=
  Exhausted controller plan.first rounds faults ∨
    ∃ firstRounds secondRounds, rounds = firstRounds ++ secondRounds ∧
      Committed controller plan.first firstRounds ∧
      Exhausted controller plan.second secondRounds faults

section

variable {controller : Controller} {plan : Plan} {rounds : List Round}

theorem sent_none_iff :
    Sent controller plan.batches rounds none ↔
      PlanCommitted controller plan rounds := by
  constructor
  · intro sent
    cases sent with
    | committed first rest =>
        cases rest with
        | committed second rest =>
            cases rest
            exact ⟨_, _, by rw [List.append_nil], first, second⟩
  · rintro ⟨firstRounds, secondRounds, rfl, first, second⟩
    simpa [Plan.batches] using Sent.committed first (.committed second .nil)

theorem sent_some_iff {faults : List String} :
    Sent controller plan.batches rounds (some faults) ↔
      PlanExhausted controller plan rounds faults := by
  constructor
  · intro sent
    cases sent with
    | exhausted first => exact .inl first
    | committed first rest =>
        cases rest with
        | exhausted second => exact .inr ⟨_, _, rfl, first, second⟩
        | committed second rest => cases rest
  · rintro (first | ⟨firstRounds, secondRounds, rfl, first, second⟩)
    · exact .exhausted first
    · exact .committed first (.exhausted second)

theorem Sent.planRounds {faults : Option (List String)}
    (sent : Sent controller plan.batches rounds faults) :
    PlanRounds controller plan rounds := by
  cases faults with
  | none =>
      rcases sent_none_iff.mp sent with
        ⟨firstRounds, secondRounds, equal, first, second⟩
      exact ⟨_, _, equal, first.sent, .inl ⟨first, second.sent⟩⟩
  | some faults =>
      rcases sent_some_iff.mp sent with
        first | ⟨firstRounds, secondRounds, equal, first, second⟩
      · exact ⟨rounds, [], by simp, first.sent, .inr ⟨first.not_committed, rfl⟩⟩
      · exact ⟨_, _, equal, first.sent, .inl ⟨first, second.sent⟩⟩

end

/-! ## The whole change -/

/-- What is asked of the device for a stage change, and what is reported. -/
inductive StageRun (controller : Controller) (requested : Int) :
    List Round → Except StageError Stage → Prop
  | outOfRange :
      ¬ (0 ≤ requested ∧ requested ≤ 8) →
      StageRun controller requested [] (.error (.outOfRange ⟨requested⟩))
  | unavailable {stage : Stage} {poll : Round} {cause : InputsUnavailable} :
      requested = stage.number →
      poll.calls = [controller.pageCall .inputs] →
      (∀ inputs, ¬ poll.ReadsInputs controller inputs) →
      StageRun controller requested [poll] (.error (.inputsUnavailable cause))
  | unplanned {stage : Stage} {poll : Round} {inputs : Inputs} {error : PlanError} :
      requested = stage.number →
      poll.calls = [controller.pageCall .inputs] →
      poll.ReadsInputs controller inputs →
      plan controller.profile inputs stage = .error error →
      StageRun controller requested [poll] (.error (.unplanned error))
  | planned {stage : Stage} {poll : Round} {plan : Plan} {rounds : List Round}
      {faults : Option (List String)} :
      requested = stage.number →
      poll.calls = [controller.pageCall .inputs] →
      poll.LeadsTo controller stage plan →
      Sent controller plan.batches rounds faults →
      StageRun controller requested (poll :: rounds) (sentResult stage faults)

theorem Controller.changeStage_run {State : Type} (controller : Controller)
    (link : Link State) (requested : Int) (device : State) :
    StageRun controller requested
      (controller.changeStage link requested device).rounds
      (controller.changeStage link requested device).outcome := by
  rw [changeStage]
  cases inRange : Stage.ofInt requested with
  | error error =>
      rcases Stage.ofInt_eq_error_iff.mp inRange with ⟨outside, rfl⟩
      exact .outOfRange outside
  | ok stage =>
      have number := Stage.ofInt_eq_ok_iff.mp inRange
      have polled := controller.pollForStage_rounds link device
      simp only [Dialogue.bind_apply, polled]
      cases outcome : (controller.pollForStage link device).outcome with
      | error cause =>
          refine .unavailable number rfl ?_
          intro inputs reads
          rw [← pollForStage_outcome_eq_ok_iff, outcome] at reads
          cases reads
      | ok inputs =>
          have reads :=
            (controller.pollForStage_outcome_eq_ok_iff link device).mp outcome
          simp only
          cases planned : plan controller.profile inputs stage with
          | error error =>
              simp only [Dialogue.pure_apply, List.append_nil]
              exact .unplanned number rfl reads planned
          | ok plan =>
              rcases controller.sendBatches_sent link stage 0 plan.batches
                (controller.pollForStage link device).device with ⟨faults, sent, result⟩
              simp only [Dialogue.bind_apply, Dialogue.logEvent,
                Dialogue.logAll_apply, List.nil_append, List.singleton_append, result]
              exact .planned number rfl ⟨inputs, reads, planned⟩ sent

/-- Recording the result makes no request and does not change it. -/
theorem Controller.setStage_run {State : Type} (controller : Controller)
    (link : Link State) (requested : Int) (device : State) :
    StageRun controller requested
      (controller.setStage link requested device).rounds
      (controller.setStage link requested device).outcome.2 := by
  have change := controller.changeStage_run link requested device
  simpa [setStage, Dialogue.logEvent] using change

theorem Controller.exists_setStage_rounds {State : Type} (controller : Controller)
    (link : Link State) (stage : Stage) (device : State) :
    ∃ sent, (controller.setStage link stage.number device).rounds =
      controller.poll link device :: sent := by
  have inRange : Stage.ofInt stage.number = .ok stage := Stage.ofInt_eq_ok_iff.mpr rfl
  have polled := controller.pollForStage_rounds link device
  simp only [setStage, changeStage, inRange, Dialogue.bind_apply, polled,
    List.cons_append]
  exact ⟨_, rfl⟩

/-- The requests of a stage change. There are none for a number that is no stage.
Otherwise the inputs page is read once, and nothing follows unless that leads to
a plan, of which each batch is sent as a whole up to an accepted attempt or until
its budget is spent. -/
theorem Controller.setStage_rounds {State : Type} (controller : Controller)
    (link : Link State) (requested : Int) (device : State) :
    if 0 ≤ requested ∧ requested ≤ 8 then
      ∃ stage poll sent, requested = Stage.number stage ∧
        (controller.setStage link requested device).rounds = poll :: sent ∧
        poll.calls = [controller.pageCall .inputs] ∧
        ((¬ ∃ plan, poll.LeadsTo controller stage plan) ∧ sent = [] ∨
          ∃ plan, poll.LeadsTo controller stage plan ∧
            PlanRounds controller plan sent)
    else (controller.setStage link requested device).rounds = [] := by
  have run := controller.setStage_run link requested device
  have inRange : ∀ stage : Stage, requested = stage.number →
      0 ≤ requested ∧ requested ≤ 8 := by
    intro stage number
    have bound := stage.inRange
    omega
  generalize (controller.setStage link requested device).rounds = rounds at run ⊢
  generalize (controller.setStage link requested device).outcome.2 = result at run
  cases run with
  | outOfRange outside => rw [if_neg outside]
  | @unavailable stage poll cause number calls unread =>
      rw [if_pos (inRange stage number)]
      refine ⟨stage, poll, [], number, rfl, calls, .inl ⟨?_, rfl⟩⟩
      rintro ⟨plan, inputs, reads, -⟩
      exact unread inputs reads
  | @unplanned stage poll inputs error number calls reads unplanned =>
      rw [if_pos (inRange stage number)]
      refine ⟨stage, poll, [], number, rfl, calls, .inl ⟨?_, rfl⟩⟩
      rintro ⟨plan, others, readsOthers, planned⟩
      rw [reads.unique readsOthers, planned] at unplanned
      cases unplanned
  | @planned stage poll plan sent faults number calls leads batches =>
      rw [if_pos (inRange stage number)]
      exact ⟨stage, poll, sent, number, rfl, calls,
        .inr ⟨plan, leads, batches.planRounds⟩⟩

end SignalControl
