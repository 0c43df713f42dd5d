import SignalControl.Proofs.ResultLedger
import SignalControl.Proofs.StageOutcome

namespace SignalControl

/-! What the records of the results list say. A record reports on the answer to one
page request or on one stage change, and it has either data or an error. -/

/-! ## Records of pages -/

structure PageReport (parser : PageParser) (page : PageKind) (answer : Answer)
    (record : ResultRecord) : Prop where
  label : record.label = page.label
  exclusive : record.data.isSome = !record.error.isSome
  complete : record.status = some Http.ok ↔ ∃ body, answer = .response Http.ok (.ok body)
  incomplete : record.status = none ↔ ∀ body, answer ≠ .response Http.ok (.ok body)
  data : ∀ data, record.data = some data ↔
    ∃ body content, answer = .response Http.ok (.ok body) ∧
      parser body = .ok content ∧ data = content.toJson
  unreadable : record.status.isSome = true → record.error.isSome = true →
    ∃ body cause, answer = .response Http.ok (.ok body) ∧ parser body = .error cause ∧
      record.error = some cause.message
  failed : record.status = none → record.data = none →
    ∃ cause, answer.result = .error cause ∧ record.error = some cause.message

namespace Controller

variable (controller : Controller) (page : PageKind) {answer : Answer} {body : String}

theorem toRecord_of_read {content : Page}
    (replied : answer.result = .ok { status := Http.ok, body := body })
    (parsed : controller.parsers.forKind page body = .ok content) :
    (controller.pageEnvelope page answer).toRecord =
      { label := page.label, status := some Http.ok, data := some content.toJson } := by
  rw [pageEnvelope_eq, replied, Envelope.resolve_request_of_parsed page.label parsed]
  rfl

theorem toRecord_of_unreadable {cause : ParseError}
    (replied : answer.result = .ok { status := Http.ok, body := body })
    (parsed : controller.parsers.forKind page body = .error cause) :
    (controller.pageEnvelope page answer).toRecord =
      { label := page.label, status := some Http.ok, error := some cause.message } := by
  rw [pageEnvelope_eq, replied, Envelope.resolve_request_of_refused page.label parsed]
  rfl

theorem toRecord_of_failed {cause : ExchangeFailure}
    (failed : answer.result = .error cause) :
    (controller.pageEnvelope page answer).toRecord =
      { label := page.label, error := some cause.message } := by
  rw [pageEnvelope_eq, failed, Envelope.resolve_request_of_failed]
  rfl

theorem pageReport_toRecord (answer : Answer) :
    PageReport (controller.parsers.forKind page) page answer
      (controller.pageEnvelope page answer).toRecord := by
  rcases answer.reply_or_failure with ⟨body, rfl, replied⟩ | ⟨cause, failed, noReply⟩
  · cases parsed : controller.parsers.forKind page body with
    | ok content =>
        rw [controller.toRecord_of_read page replied parsed]
        constructor <;> simp [parsed, eq_comm]
    | error cause =>
        rw [controller.toRecord_of_unreadable page replied parsed]
        constructor <;> simp [parsed]
  · rw [controller.toRecord_of_failed page failed]
    constructor <;> simp [noReply, failed]

end Controller

/-! ## Records of stage changes -/

/-- A record of a stage change, which has no status of its own. -/
structure StageReport (requested : Int) (result : Except StageError Stage)
    (record : ResultRecord) : Prop where
  label : record.label = Controller.stageLabel
  status : record.status = none
  exclusive : record.data.isSome = !record.error.isSome
  confirmed : record.data.isSome = true ↔ ∃ stage, result = .ok stage
  data : ∀ data, record.data = some data → 0 ≤ requested ∧ requested ≤ 8 ∧
    data = .object [(Controller.stageLabel, .integer requested)]
  error : ∀ message, record.error = some message ↔
    ∃ cause, result = .error cause ∧ message = cause.message

theorem StageRun.stageReport {controller : Controller} {requested : Int}
    {rounds : List Round} {result : Except StageError Stage}
    (run : StageRun controller requested rounds result) :
    StageReport requested result (Controller.stageRecord result) := by
  cases result with
  | ok stage =>
      have number := ((run.confirmed_iff stage).mp rfl).1
      have small := stage.inRange
      constructor <;> simp [Controller.stageRecord, number]
      omega
  | error cause =>
      constructor <;> simp [Controller.stageRecord, eq_comm]

/-! ## Operations -/

namespace Controller

def Operation.pages? : Operation → Option (List PageKind)
  | .pollStatus extras => some (statusPages extras)
  | .pollInputs => some [.inputs]
  | .requestPages pages => some pages
  | _ => none

/-- What an operation answers, told from the rounds that it made. Requested pages are
reported in the order of their requests, each by what came of its own. -/
inductive Reports (controller : Controller) :
    Operation → List Round → Answered → Prop
  | pages {operation : Operation} {pages round records} :
      operation.pages? = some pages →
      round.calls = pages.map controller.pageCall →
      List.Forall₂
        (fun request => PageReport (controller.parsers.forKind request.1) request.1
          request.2)
        (round.completion.answered pages) records →
      Reports controller operation [round] (.records records)
  | setStage {requested rounds result} :
      StageReport requested result (stageRecord result) →
      Reports controller (.setStage requested) rounds (.stage result)
  | takeResults {taken} : Reports controller .takeResults [] (.taken taken)
  | buildResponse {response} :
      Reports controller .buildResponse [] (.response response)

variable {State : Type} (controller : Controller) (link : Link State)

theorem requestPages_reports {operation : Operation} {pages : List PageKind}
    (requests : operation.pages? = some pages) (device : State) :
    Reports controller operation (controller.requestPages link pages device).rounds
      (.records (controller.requestPages link pages device).outcome.2) := by
  simp only [requestPages, fetchPages, Dialogue.logEvent, Dialogue.bind_apply,
    Dialogue.logAll_apply, Dialogue.makeCalls_apply, Dialogue.pure_apply,
    List.nil_append, List.append_nil]
  refine .pages requests rfl ?_
  rw [List.map_map, List.forall₂_map_right_iff, List.forall₂_same]
  intro request _
  exact controller.pageReport_toRecord request.1 request.2

theorem perform_reports (operation : Operation) (device : State) :
    Reports controller operation (controller.perform link operation device).rounds
      (controller.perform link operation device).outcome.2 := by
  cases operation with
  | pollStatus extras =>
      have reports : Reports controller (.pollStatus extras) _ _ :=
        controller.requestPages_reports link rfl device
      simpa [perform, pollStatus] using reports
  | pollInputs =>
      have reports : Reports controller .pollInputs _ _ :=
        controller.requestPages_reports link rfl device
      simpa [perform, pollInputs] using reports
  | requestPages pages =>
      have reports : Reports controller (.requestPages pages) _ _ :=
        controller.requestPages_reports link rfl device
      simpa [perform] using reports
  | setStage requested =>
      have report := (controller.setStage_run link requested device).stageReport
      simpa [perform] using Reports.setStage report
  | takeResults => exact .takeResults
  | buildResponse => exact .buildResponse

theorem Reports.of_results {controller : Controller} {results : List ResultRecord}
    {operation : Operation} {rounds : List Round} {answered : Answered}
    (reports : Reports { controller with results := results } operation rounds answered) :
    Reports controller operation rounds answered := by
  cases reports with
  | pages requests calls each => exact .pages requests calls each
  | setStage report => exact .setStage report
  | takeResults => exact .takeResults
  | buildResponse => exact .buildResponse

theorem Reports.exclusive {controller : Controller} {operation : Operation}
    {rounds : List Round} {answered : Answered}
    (reports : Reports controller operation rounds answered) :
    ∀ record ∈ answered.produced, record.data.isSome = !record.error.isSome := by
  cases reports with
  | @pages _ pages round records requests calls each =>
      rw [Answered.produced]
      generalize round.completion.answered pages = answers at each
      induction each with
      | nil => simp
      | cons report later induction =>
          intro record member
          rcases List.mem_cons.mp member with rfl | member
          · exact report.exclusive
          · exact induction record member
  | setStage report =>
      intro record member
      rw [List.mem_singleton.mp member]
      exact report.exclusive
  | takeResults =>
      intro record member
      cases member
  | buildResponse =>
      intro record member
      cases member

theorem Step.exists_results {before after : Controller} {operation : Operation}
    {answered : Answered} (step : Step before operation answered after) :
    ∃ results, after = { before with results := results } := by
  cases step with
  | pollStatus => exact ⟨_, rfl⟩
  | pollInputs => exact ⟨_, rfl⟩
  | requestPages => exact ⟨_, rfl⟩
  | setStage => exact ⟨_, rfl⟩
  | takeResults => exact ⟨_, rfl⟩
  | buildResponse => exact ⟨before.results, rfl⟩

/-! ## Sequences of operations -/

structure Performance where
  operation : Operation
  answered : Answered
  rounds : List Round

def performances (controller : Controller) (link : Link State) :
    List Operation → State → List Performance
  | [], _ => []
  | operation :: rest, device =>
      let run := controller.perform link operation device
      { operation := operation, answered := run.outcome.2, rounds := run.rounds } ::
        run.outcome.1.performances link rest run.device

theorem performAll_eq_performances (operations : List Operation) (device : State) :
    (controller.performAll link operations device).outcome.2 =
        (controller.performances link operations device).map (fun performance =>
          (performance.operation, performance.answered)) ∧
      (controller.performAll link operations device).rounds =
        (controller.performances link operations device).flatMap Performance.rounds := by
  induction operations generalizing controller device with
  | nil => exact ⟨rfl, rfl⟩
  | cons operation rest induction =>
      rcases induction (controller.perform link operation device).outcome.1
        (controller.perform link operation device).device with ⟨answers, rounds⟩
      simp [performAll, performances, answers, rounds]

/-- What is left was there at first or was produced, and no record went ahead of
another one. -/
theorem results_suffix (operations : List Operation) (device : State) :
    (controller.performAll link operations device).outcome.1.results <:+
      controller.results ++
        (controller.performances link operations device).flatMap
          (fun performance => performance.answered.produced) := by
  rcases controller.performAll_eq_performances link operations device with ⟨answers, -⟩
  rcases performAll_history link operations controller device with ⟨history, -⟩
  have conserved := history.conserves
  rw [answers, produced, List.flatMap_map] at conserved
  exact ⟨_, conserved⟩

theorem performances_reports (operations : List Operation) (device : State) :
    ∀ performance ∈ controller.performances link operations device,
      Reports controller performance.operation performance.rounds
        performance.answered := by
  induction operations generalizing controller device with
  | nil => simp [performances]
  | cons operation rest induction =>
      intro performance member
      rcases List.mem_cons.mp member with rfl | later
      · exact controller.perform_reports link operation device
      · rcases (controller.perform_step link operation device).exists_results with
          ⟨results, equal⟩
        have reports := induction _ _ performance later
        rw [equal] at reports
        exact reports.of_results

/-- The records that a sequence of operations leaves are the last ones of those that
were there at first and then, operation by operation, of those that its own rounds
account for. So a record of a page has a status exactly if the device answered that
request with a complete reply, and its data is what the parser of the page made of
the reply; a record of a stage change has no status, and its data is the requested
stage; and every record has either data or an error. -/
theorem performAll_reports (operations : List Operation) (device : State) :
    (controller.performances link operations device).map Performance.operation =
        operations ∧
      (controller.performances link operations device).flatMap Performance.rounds =
        (controller.performAll link operations device).rounds ∧
      (∀ performance ∈ controller.performances link operations device,
        Reports controller performance.operation performance.rounds
          performance.answered) ∧
      (controller.performAll link operations device).outcome.1.results <:+
        controller.results ++
          (controller.performances link operations device).flatMap
            (fun performance => performance.answered.produced) ∧
      ∀ record ∈ (controller.performAll link operations device).outcome.1.results,
        record ∈ controller.results ∨ record.data.isSome = !record.error.isSome := by
  rcases controller.performAll_eq_performances link operations device with
    ⟨answers, rounds⟩
  have reports := controller.performances_reports link operations device
  have left := controller.results_suffix link operations device
  rcases performAll_history link operations controller device with ⟨-, order⟩
  rw [answers, List.map_map] at order
  refine ⟨order, rounds.symm, reports, left, ?_⟩
  intro record member
  rcases List.mem_append.mp (left.subset member) with earlier | added
  · exact .inl earlier
  · rcases List.mem_flatMap.mp added with ⟨performance, performed, isProduced⟩
    exact .inr ((reports performance performed).exclusive record isProduced)

end Controller

end SignalControl
