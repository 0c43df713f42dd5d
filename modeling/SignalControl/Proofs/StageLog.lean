import SignalControl.Proofs.StageTrace

namespace SignalControl

/-! What a stage change logs above DEBUG, told from the rounds that it makes. Every
command that was not accepted is reported, every attempt that is repeated is announced
with the faults of the one before, and the last event says how the change ended. -/

/-! ## Reports -/

def LogEvent.isReport (event : LogEvent) : Bool :=
  event.level != .debug

def LogEvent.isWarning (event : LogEvent) : Bool :=
  event.level == .warn

def LogEvent.isInformation (event : LogEvent) : Bool :=
  event.level == .info

def Run.reports {State α : Type} (run : Run State α) : List LogEvent :=
  run.log.filter LogEvent.isReport

theorem LogEvent.filter_isReport {shown : LogEvent → Bool}
    (reported : ∀ event, shown event = true → event.isReport = true)
    (log : List LogEvent) : (log.filter isReport).filter shown = log.filter shown := by
  rw [List.filter_filter]
  apply List.filter_congr
  intro event _
  cases isShown : shown event with
  | true => rw [reported event isShown, Bool.and_self]
  | false => rw [Bool.false_and]

theorem LogEvent.isReport_of_isWarning (event : LogEvent)
    (warned : event.isWarning = true) : event.isReport = true := by
  rw [isWarning, beq_iff_eq] at warned
  rw [isReport, warned]
  rfl

theorem LogEvent.isReport_of_isInformation (event : LogEvent)
    (informed : event.isInformation = true) : event.isReport = true := by
  rw [isInformation, beq_iff_eq] at informed
  rw [isReport, informed]
  rfl

namespace Dialogue

variable {State α β : Type}

theorem reports_bind (dialogue : Dialogue State α) (next : α → Dialogue State β)
    (device : State) :
    ((dialogue >>= next) device).reports =
      (dialogue device).reports ++
        (next (dialogue device).outcome (dialogue device).device).reports := by
  simp [Run.reports]

theorem reports_logEvent (event : LogEvent) (device : State) :
    (logEvent event device).reports = if event.isReport then [event] else [] := by
  cases reported : event.isReport <;> simp [Run.reports, logEvent, reported]

end Dialogue

theorem LogEvent.isReport_commandJudged (name : String) (verdict : Verdict) :
    (LogEvent.commandJudged name verdict).isReport = !verdict.isAccepted := by
  cases verdict <;> rfl

theorem LogEvent.isReport_started (call : Call) : call.started.isReport = false := by
  cases call <;> rfl

theorem Answer.isReport_of_notice? {answer : Answer} {event : LogEvent}
    (noticed : answer.notice? = some event) : event.isReport = false := by
  cases answer with
  | unsent cause => cases noticed
  | unanswered cause => cases noticed
  | response status body =>
      rw [notice?] at noticed
      split at noticed
      · cases noticed
      · cases noticed
        rfl

theorem Answer.filter_notice? (answer : Answer) :
    answer.notice?.toList.filter LogEvent.isReport = [] := by
  cases noticed : answer.notice? with
  | none => rfl
  | some event => simp [isReport_of_notice? noticed]

def Round.warnings (round : Round) (batch : Batch) : List LogEvent :=
  ((round.completion.settled batch).filter fun settled =>
    !settled.2.accepts).map Controller.judgedEvent

/-! ## Texts of the reports -/

def LogEvent.Shows (event : LogEvent) (text : String) : Prop :=
  ∃ before after : String, event.message = before ++ text ++ after

theorem LogEvent.retrying_shows (number limit : Nat) (faulted : List String) :
    (LogEvent.retrying number limit faulted).Shows
        (toString number ++ "/" ++ toString limit) ∧
      (LogEvent.retrying number limit faulted).Shows (Text.quotedList faulted) := by
  have message : (LogEvent.retrying number limit faulted).message =
      "Batch attempt " ++ toString number ++ "/" ++ toString limit ++ " faulted on " ++
        Text.quotedList faulted ++ "; retrying" := rfl
  constructor
  · refine ⟨"Batch attempt ",
      " faulted on " ++ Text.quotedList faulted ++ "; retrying", ?_⟩
    simp only [message, String.append_assoc]
  · exact ⟨"Batch attempt " ++ toString number ++ "/" ++ toString limit ++ " faulted on ",
      "; retrying", message⟩

theorem LogEvent.stageConfirmed_shows (base : String) (stage : Stage) :
    (LogEvent.stageConfirmed base stage).Shows stage.text :=
  ⟨base ++ ": stage ", " confirmed", rfl⟩

/-- A verdict is reported under the name of its command. -/
theorem LogEvent.message_commandJudged (name : String) (verdict : Verdict) :
    ∃ rest, (LogEvent.commandJudged name verdict).message = name ++ rest := by
  cases verdict with
  | accepted => exact ⟨_, rfl⟩
  | failed cause => exact ⟨_, String.append_assoc⟩
  | refused alert =>
      cases alert with
      | none => exact ⟨_, rfl⟩
      | some alert => exact ⟨_, String.append_assoc⟩

/-! ## One attempt -/

namespace Controller

open Dialogue

variable {State : Type} (controller : Controller) (link : Link State)
  (batch : Batch) (device : State)

theorem isReport_judgedEvent (settled : Command × Answer) :
    (judgedEvent settled).isReport = !settled.2.accepts := by
  rw [judgedEvent, LogEvent.isReport_commandJudged, isAccepted_commandEnvelope]

theorem filter_flatMap_events {events : Command × Answer → List LogEvent}
    {shown : Command × Answer → Bool}
    (each : ∀ settled, (events settled).filter LogEvent.isReport =
      if shown settled then [judgedEvent settled] else [])
    (pairs : List (Command × Answer)) :
    (pairs.flatMap events).filter LogEvent.isReport =
      (pairs.filter shown).map judgedEvent := by
  induction pairs with
  | nil => rfl
  | cons pair rest induction =>
      rw [List.flatMap_cons, List.filter_append, each, induction]
      by_cases isShown : shown pair = true
      · simp [isShown]
      · simp [isShown]

theorem filter_dispatchEvents (dispatched : Command × Answer) :
    (controller.dispatchEvents dispatched).filter LogEvent.isReport =
      if !dispatched.2.accepts && dispatched.2.isUnsent then [judgedEvent dispatched]
      else [] := by
  have started := LogEvent.isReport_started (controller.commandCall dispatched.1)
  have judged := isReport_judgedEvent dispatched
  rcases dispatched with ⟨command, answer⟩
  cases unsent : answer.isUnsent with
  | true => cases accepted : answer.accepts <;> simp_all [dispatchEvents]
  | false => simp_all [dispatchEvents]

theorem filter_arrivalEvents (arrived : Command × Answer) :
    (arrivalEvents arrived).filter LogEvent.isReport =
      if !arrived.2.accepts && !arrived.2.isUnsent then [judgedEvent arrived] else [] := by
  have noticed := arrived.2.filter_notice?
  have judged := isReport_judgedEvent arrived
  cases unsent : arrived.2.isUnsent with
  | true => simp [arrivalEvents, unsent]
  | false => cases accepted : arrived.2.accepts <;> simp_all [arrivalEvents]

/-- An attempt reports the commands that were not accepted, as they settled. -/
theorem sendOnce_reports :
    (controller.sendOnce link batch device).reports =
      (controller.attempt link batch device).warnings batch := by
  have dispatched := filter_flatMap_events controller.filter_dispatchEvents
  have arrived := filter_flatMap_events filter_arrivalEvents
  simp [Run.reports, sendOnce, Round.warnings, attempt, Completion.settled, dispatched, arrived,
    List.filter_filter]

end Controller

/-! ## The attempts of one batch -/

/-- The warnings of attempts that come after a number of others. Each attempt but the
last one is repeated, which is announced with its faults. -/
def attemptWarnings (limit : Nat) (batch : Batch) (number : Nat)
    (rounds : List Round) : List LogEvent :=
  (rounds.mapIdx fun position round =>
    round.warnings batch ++
      if position + 1 < rounds.length then
        [.retrying (number + position + 1) limit (round.faults batch)]
      else []).flatten

section

variable {limit number : Nat} {batch : Batch} {round : Round} {rounds : List Round}

theorem attemptWarnings_singleton :
    attemptWarnings limit batch number [round] = round.warnings batch := by
  simp [attemptWarnings]

theorem attemptWarnings_cons (repeated : rounds ≠ []) :
    attemptWarnings limit batch number (round :: rounds) =
      round.warnings batch ++ .retrying (number + 1) limit (round.faults batch) ::
        attemptWarnings limit batch (number + 1) rounds := by
  have another : 0 < rounds.length := List.length_pos_iff.mpr repeated
  have later : ∀ position, number + (position + 1) + 1 = number + 1 + position + 1 := by
    intro position
    omega
  simp [attemptWarnings, List.mapIdx_cons, another, later]

theorem mem_attemptWarnings_iff {event : LogEvent} :
    event ∈ attemptWarnings limit batch number rounds ↔
      ∃ position round, rounds[position]? = some round ∧
        (event ∈ round.warnings batch ∨ position + 1 < rounds.length ∧
          event = .retrying (number + position + 1) limit (round.faults batch)) := by
  simp only [attemptWarnings, List.mem_flatten, List.mem_mapIdx]
  constructor
  · rintro ⟨_, ⟨position, inside, rfl⟩, member⟩
    refine ⟨position, rounds[position], List.getElem?_eq_getElem inside, ?_⟩
    rcases List.mem_append.mp member with warned | announced
    · exact .inl warned
    · split at announced
      case isTrue another => exact .inr ⟨another, List.mem_singleton.mp announced⟩
      case isFalse => cases announced
  · rintro ⟨position, round, found, member⟩
    rcases List.getElem?_eq_some_iff.mp found with ⟨inside, rfl⟩
    refine ⟨_, ⟨position, inside, rfl⟩, ?_⟩
    rcases member with warned | ⟨another, rfl⟩
    · exact List.mem_append_left _ warned
    · simp [another]

end

namespace Controller

open Dialogue

variable {State : Type} (controller : Controller) (link : Link State)
  (batch : Batch)

theorem sendFrom_rounds_ne_nil (number : UInt32) (device : State) :
    (controller.sendFrom link batch number device).rounds ≠ [] := by
  rw [sendFrom, bind_apply, sendOnce_rounds]
  simp

theorem sendFrom_reports (number : UInt32) (device : State) :
    (controller.sendFrom link batch number device).reports =
      attemptWarnings controller.retry.maxAttempts.toNat batch number.toNat
        (controller.sendFrom link batch number device).rounds := by
  induction number using controller.retry.attempt_induction generalizing device with
  | attempt number induction =>
      have once := controller.sendOnce_reports link batch device
      have rounds := controller.sendOnce_rounds link batch device
      have outcome := controller.sendOnce_outcome link batch device
      rw [sendFrom, reports_bind, once, bind_apply, rounds, outcome, Round.outcome]
      split
      case isTrue accepted =>
        simp [attemptWarnings_singleton, Run.reports]
      case isFalse refused =>
        by_cases allowed : controller.retry.allowsAfter number = true
        · have advanced := RetryPolicy.toNat_next_of_allowsAfter allowed
          have later := induction allowed (controller.sendOnce link batch device).device
          have more := controller.sendFrom_rounds_ne_nil link batch
            (RetryPolicy.next number) (controller.sendOnce link batch device).device
          have announced (limit : Nat) (faulted : List String) :
              (LogEvent.retrying (number.toNat + 1) limit faulted).isReport = true := rfl
          simp only [dif_pos allowed, reports_bind, reports_logEvent, announced, if_true]
          simp [logEvent, later, attemptWarnings_cons more, advanced]
        · simp [allowed, attemptWarnings_singleton, Run.reports]

end Controller

/-! ## The batches of a plan -/

structure Sending where
  batch : Batch
  rounds : List Round

def Sending.warnings (controller : Controller) (sending : Sending) : List LogEvent :=
  attemptWarnings controller.retry.maxAttempts.toNat sending.batch 0 sending.rounds

/-- The sent batches are the first of those that have commands, each with all its
attempts. -/
structure SentAs (controller : Controller) (batches : List Batch)
    (rounds : List Round) (sendings : List Sending) : Prop where
  batches : sendings.map Sending.batch <+: batches.filter fun batch => !batch.isEmpty
  attempts : ∀ sending ∈ sendings,
    Attempts controller sending.batch controller.retry.maxAttempts.toNat sending.rounds
  rounds : rounds = sendings.flatMap Sending.rounds

namespace SentAs

variable {controller : Controller} {batch : Batch} {batches : List Batch}
  {rounds : List Round} {sendings : List Sending}

theorem none : SentAs controller batches [] [] where
  batches := List.nil_prefix
  attempts := by simp
  rounds := rfl

theorem skip (sent : SentAs controller batches rounds sendings) :
    SentAs controller ([] :: batches) rounds sendings where
  batches := by simpa using sent.batches
  attempts := sent.attempts
  rounds := sent.rounds

theorem cons {attempts : List Round} (nonempty : batch ≠ [])
    (first : Attempts controller batch controller.retry.maxAttempts.toNat attempts)
    (sent : SentAs controller batches rounds sendings) :
    SentAs controller (batch :: batches) (attempts ++ rounds)
      (⟨batch, attempts⟩ :: sendings) where
  batches := by
    have kept : batch.isEmpty = false := by simpa using nonempty
    simpa [kept] using sent.batches
  attempts := by
    rw [List.forall_mem_cons]
    exact ⟨first, sent.attempts⟩
  rounds := by rw [List.flatMap_cons, sent.rounds]

end SentAs

theorem Controller.sendBatches_reports {State : Type} (controller : Controller)
    (link : Link State) (stage : Stage) (position : Nat) (batches : List Batch)
    (device : State) :
    ∃ sendings,
      SentAs controller batches
        (controller.sendBatches link stage position batches device).rounds sendings ∧
      (controller.sendBatches link stage position batches device).reports =
        sendings.flatMap (Sending.warnings controller) := by
  induction batches generalizing position device with
  | nil => exact ⟨[], .none, rfl⟩
  | cons batch rest induction =>
      rw [sendBatches]
      by_cases empty : batch = []
      · subst empty
        rcases induction (position + 1) device with ⟨sendings, sent, reported⟩
        refine ⟨sendings, ?_, ?_⟩
        · simpa [Dialogue.logEvent] using sent.skip
        · simpa [Dialogue.logEvent, Run.reports, LogEvent.isReport, LogEvent.level]
            using reported
      · have notEmpty : ¬ batch.isEmpty = true := by simpa using empty
        have attempts := (controller.sendBatch_attempts link batch device).1
        have warned : (controller.sendBatch link batch device).reports =
            Sending.warnings controller
              ⟨batch, (controller.sendBatch link batch device).rounds⟩ :=
          controller.sendFrom_reports link batch 0 device
        rw [if_neg notEmpty, Dialogue.reports_bind, Dialogue.bind_apply, warned]
        cases (controller.sendBatch link batch device).outcome with
        | committed succeeded =>
            rcases induction (position + 1)
              (controller.sendBatch link batch device).device with
              ⟨sendings, sent, reported⟩
            refine ⟨_ :: sendings, .cons empty attempts ?_, ?_⟩
            · simpa [Dialogue.logEvent] using sent
            · simpa [Dialogue.logEvent, Run.reports, LogEvent.isReport, LogEvent.level]
                using reported
        | faulted succeeded faulted =>
            refine ⟨[_], .cons empty attempts .none, ?_⟩
            simp [Run.reports]

/-! ## The whole change -/

/-- The rounds of a stage change besides those of its batches read the inputs page. -/
inductive StageSendings (controller : Controller) (requested : Int) :
    List Round → List Sending → Prop
  | unplanned {reads : List Round} :
      (∀ read ∈ reads, read.calls = [controller.pageCall .inputs]) →
      StageSendings controller requested reads []
  | planned {stage : Stage} {poll : Round} {plan : Plan} {rounds : List Round}
      {sendings : List Sending} :
      requested = stage.number →
      poll.calls = [controller.pageCall .inputs] →
      poll.LeadsTo controller stage plan →
      SentAs controller plan.batches rounds sendings →
      StageSendings controller requested (poll :: rounds) sendings

namespace Controller

open Dialogue

variable {State : Type} (controller : Controller) (link : Link State)
  (requested : Int) (device : State)

theorem pollForStage_reports : (controller.pollForStage link device).reports = [] := by
  have noticed := (controller.pollAnswer link device).filter_notice?
  have started := LogEvent.isReport_started (controller.pageCall .inputs)
  simpa [pollForStage, makeCall, logEvent, Run.reports, started, pollAnswer] using noticed

theorem changeStage_reports :
    ∃ sendings,
      StageSendings controller requested
        (controller.changeStage link requested device).rounds sendings ∧
      (controller.changeStage link requested device).reports =
        sendings.flatMap (Sending.warnings controller) := by
  rw [changeStage]
  cases inRange : Stage.ofInt requested with
  | error error => exact ⟨[], .unplanned (by simp), rfl⟩
  | ok stage =>
      have number := Stage.ofInt_eq_ok_iff.mp inRange
      have polled := controller.pollForStage_rounds link device
      have silent := controller.pollForStage_reports link device
      rw [reports_bind, silent]
      simp only [bind_apply, polled]
      cases outcome : (controller.pollForStage link device).outcome with
      | error cause => exact ⟨[], .unplanned (by simp [poll]), rfl⟩
      | ok inputs =>
          have reads :=
            (controller.pollForStage_outcome_eq_ok_iff link device).mp outcome
          simp only
          cases planned : plan controller.profile inputs stage with
          | error error => exact ⟨[], .unplanned (by simp [poll]), rfl⟩
          | ok plan =>
              rcases controller.sendBatches_reports link stage 0 plan.batches
                (controller.pollForStage link device).device with
                ⟨sendings, sent, reported⟩
              refine ⟨sendings, .planned number rfl ⟨inputs, reads, planned⟩ sent, ?_⟩
              simpa [logEvent, Run.reports, LogEvent.isReport, LogEvent.level]
                using reported

theorem setStage_reports :
    ∃ sendings,
      StageSendings controller requested
        (controller.setStage link requested device).rounds sendings ∧
      (controller.setStage link requested device).reports =
        sendings.flatMap (Sending.warnings controller) ++
          [controller.stageEvent requested
            (controller.setStage link requested device).outcome.2] := by
  rcases controller.changeStage_reports link requested device with
    ⟨sendings, sent, reported⟩
  have result : (controller.stageEvent requested
      (controller.changeStage link requested device).outcome).isReport = true := by
    cases (controller.changeStage link requested device).outcome <;> rfl
  refine ⟨sendings, by simpa [setStage, logEvent] using sent, ?_⟩
  simp only [setStage, reports_bind, reported, reports_logEvent, result]
  simp [logEvent, Run.reports]

def failures : Except StageError Stage → List LogEvent
  | .ok _ => []
  | .error error => [.stageFailed controller.baseUrl requested error]

def confirmations : Except StageError Stage → List LogEvent
  | .ok stage => [.stageConfirmed controller.baseUrl stage]
  | .error _ => []

end Controller

theorem Round.level_of_mem_warnings {round : Round} {batch : Batch} {event : LogEvent}
    (member : event ∈ round.warnings batch) : event.level = .warn := by
  rcases List.mem_map.mp member with ⟨settled, isMember, rfl⟩
  have refused := (List.mem_filter.mp isMember).2
  have reported := Controller.isReport_judgedEvent settled
  rw [refused, Controller.judgedEvent] at reported
  rw [Controller.judgedEvent]
  cases verdict : (Controller.commandEnvelope settled.1 settled.2).verdict <;>
    simp_all [LogEvent.isReport, LogEvent.level]

theorem Sending.level_of_mem_warnings {controller : Controller} {sending : Sending}
    {event : LogEvent} (member : event ∈ sending.warnings controller) :
    event.level = .warn := by
  rcases mem_attemptWarnings_iff.mp member with ⟨_, round, -, warned | ⟨-, rfl⟩⟩
  · exact round.level_of_mem_warnings warned
  · rfl

/-- An attempt is only announced while another one is allowed. -/
theorem Sending.counter_lt {controller : Controller} {sending : Sending}
    (attempts : Attempts controller sending.batch controller.retry.maxAttempts.toNat
      sending.rounds)
    {number limit : Nat} {faulted : List String}
    (member : .retrying number limit faulted ∈ sending.warnings controller) :
    number < limit := by
  rcases mem_attemptWarnings_iff.mp member with
    ⟨position, round, -, warned | ⟨another, equal⟩⟩
  · rcases List.mem_map.mp warned with ⟨settled, -, impossible⟩
    cases impossible
  · cases equal
    have withinBudget := attempts.withinBudget
    omega

theorem StageSendings.attempts {controller : Controller} {requested : Int}
    {rounds : List Round} {sendings : List Sending}
    (sent : StageSendings controller requested rounds sendings) :
    ∀ sending ∈ sendings,
      Attempts controller sending.batch controller.retry.maxAttempts.toNat
        sending.rounds := by
  cases sent with
  | unplanned => simp
  | planned _ _ _ sent => exact sent.attempts

/-! ## The log of a stage change -/

structure StageLog (controller : Controller) (requested : Int)
    (result : Except StageError Stage) (sendings : List Sending)
    (log : List LogEvent) : Prop where
  warnings : log.filter LogEvent.isWarning =
    sendings.flatMap (Sending.warnings controller) ++
      controller.failures requested result
  information : log.filter LogEvent.isInformation = controller.confirmations result
  -- Every command was answered once, so none is left out and none is told twice.
  refusals : ∀ sending ∈ sendings, ∀ round ∈ sending.rounds,
    (round.warnings sending.batch).Perm
      (((round.completion.answered sending.batch).filter fun answered =>
        !answered.2.accepts).map Controller.judgedEvent)
  named : ∀ answered : Command × Answer, ∃ rest,
    (Controller.judgedEvent answered).message = answered.1.name ++ rest
  counted : ∀ sending ∈ sendings, ∀ number limit faulted,
    .retrying number limit faulted ∈ sending.warnings controller → number < limit
  announced : ∀ number limit faulted,
    (LogEvent.retrying number limit faulted).Shows
        (toString number ++ "/" ++ toString limit) ∧
      (LogEvent.retrying number limit faulted).Shows (Text.quotedList faulted)
  confirmed : ∀ stage, (LogEvent.stageConfirmed controller.baseUrl stage).Shows stage.text

theorem StageLog.of_reports {controller : Controller} {requested : Int}
    {rounds : List Round} {result : Except StageError Stage} {sendings : List Sending}
    {log : List LogEvent} (sent : StageSendings controller requested rounds sendings)
    (reported : log.filter LogEvent.isReport =
      sendings.flatMap (Sending.warnings controller) ++
        [controller.stageEvent requested result]) :
    StageLog controller requested result sendings log := by
  have warned : ∀ event ∈ sendings.flatMap (Sending.warnings controller),
      event.level = .warn := by
    intro event member
    rcases List.mem_flatMap.mp member with ⟨sending, -, isWarning⟩
    exact sending.level_of_mem_warnings isWarning
  constructor
  case warnings =>
    rw [← LogEvent.filter_isReport LogEvent.isReport_of_isWarning, reported,
      List.filter_append, List.filter_eq_self.mpr]
    · cases result <;> rfl
    · intro event member
      simp [LogEvent.isWarning, warned event member]
  case information =>
    rw [← LogEvent.filter_isReport LogEvent.isReport_of_isInformation, reported,
      List.filter_append, List.filter_eq_nil_iff.mpr]
    · cases result <;> rfl
    · intro event member
      simp [LogEvent.isInformation, warned event member]
  case refusals =>
    intro sending member round isRound
    have whole := (sent.attempts sending member).whole round isRound
    have each : sending.batch.length = round.calls.length := by
      rw [whole, List.length_map]
    exact ((round.completion.settled_perm each).filter _).map _
  case named =>
    intro answered
    exact LogEvent.message_commandJudged _ _
  case counted =>
    intro sending member number limit faulted announced
    exact sending.counter_lt (sent.attempts sending member) announced
  case announced => exact LogEvent.retrying_shows
  case confirmed => exact LogEvent.stageConfirmed_shows controller.baseUrl

/-- The log of a stage change accounts for every command. Each command that was not
accepted has one warning under its name. Each attempt that was repeated has one with
its number and its faults. The last warning says that the change failed, if it did, and
the only information is that it was confirmed. -/
theorem Controller.setStage_log {State : Type} (controller : Controller)
    (link : Link State) (requested : Int) (device : State) :
    ∃ sendings,
      StageSendings controller requested
        (controller.setStage link requested device).rounds sendings ∧
      StageLog controller requested
        (controller.setStage link requested device).outcome.2 sendings
        (controller.setStage link requested device).log := by
  rcases controller.setStage_reports link requested device with
    ⟨sendings, sent, reported⟩
  exact ⟨sendings, sent, .of_reports sent reported⟩

end SignalControl
