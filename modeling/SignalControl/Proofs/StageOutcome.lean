import SignalControl.Proofs.StageTrace

namespace SignalControl

/-! What a stage change reports, told from the rounds that it made. A stage is
confirmed only after both batches were committed, and the faults of a rejected
change are those of the last attempt of the batch that was exhausted. -/

/-- The rounds of a change are those of one poll and one plan at most. -/
theorem StageRun.result_of_plan {controller : Controller} {requested : Int}
    {stage : Stage} {poll : Round} {plan : Plan} {sent : List Round}
    {faults : Option (List String)} {result : Except StageError Stage}
    (run : StageRun controller requested (poll :: sent) result)
    (number : requested = stage.number) (leads : poll.LeadsTo controller stage plan)
    (batches : Sent controller plan.batches sent faults) :
    result = sentResult stage faults := by
  have sameStage : ∀ other : Stage, requested = other.number → other = stage := by
    intro other otherNumber
    exact Stage.eq_of_number_eq (by omega)
  cases run with
  | @unavailable other _ cause otherNumber calls unread =>
      rcases leads with ⟨inputs, reads, -⟩
      exact absurd reads (unread inputs)
  | @unplanned other _ inputs error otherNumber calls reads unplanned =>
      rcases leads with ⟨others, readsOthers, planned⟩
      rw [reads.unique readsOthers, sameStage other otherNumber, planned] at unplanned
      cases unplanned
  | @planned other _ otherPlan _ otherFaults otherNumber calls otherLeads otherBatches =>
      rw [sameStage other otherNumber] at otherLeads ⊢
      rw [otherLeads.unique leads] at otherBatches
      rw [otherBatches.unique batches]

theorem sentResult_eq_ok_iff {stage confirmed : Stage}
    {faults : Option (List String)} :
    sentResult stage faults = .ok confirmed ↔ stage = confirmed ∧ faults = none := by
  cases faults <;> simp [sentResult]

theorem sentResult_eq_rejected_iff {stage : Stage} {faults : Option (List String)}
    {names : List String} :
    sentResult stage faults = .error (.rejected names) ↔ faults = some names := by
  cases faults <;> simp [sentResult]

section

variable {controller : Controller} {requested : Int} {rounds : List Round}
  {result : Except StageError Stage}

theorem StageRun.confirmed_iff (run : StageRun controller requested rounds result)
    (stage : Stage) :
    result = .ok stage ↔
      requested = stage.number ∧ ∃ poll sent plan, rounds = poll :: sent ∧
        poll.LeadsTo controller stage plan ∧ PlanCommitted controller plan sent := by
  constructor
  · intro confirmed
    cases run with
    | outOfRange outside => cases confirmed
    | unavailable number calls unread => cases confirmed
    | unplanned number calls reads unplanned => cases confirmed
    | planned number calls leads batches =>
        rcases sentResult_eq_ok_iff.mp confirmed with ⟨rfl, rfl⟩
        exact ⟨number, _, _, _, rfl, leads, sent_none_iff.mp batches⟩
  · rintro ⟨number, poll, sent, plan, rfl, leads, committed⟩
    exact run.result_of_plan number leads (sent_none_iff.mpr committed)

theorem StageRun.rejected_iff (run : StageRun controller requested rounds result)
    (faults : List String) :
    result = .error (.rejected faults) ↔
      ∃ stage poll sent plan, requested = Stage.number stage ∧
        rounds = poll :: sent ∧ poll.LeadsTo controller stage plan ∧
        PlanExhausted controller plan sent faults := by
  constructor
  · intro rejected
    cases run with
    | outOfRange outside => cases rejected
    | unavailable number calls unread => cases rejected
    | unplanned number calls reads unplanned => cases rejected
    | planned number calls leads batches =>
        have equal := sentResult_eq_rejected_iff.mp rejected
        subst equal
        exact ⟨_, _, _, _, number, rfl, leads, sent_some_iff.mp batches⟩
  · rintro ⟨stage, poll, sent, plan, number, rfl, leads, exhausted⟩
    exact run.result_of_plan number leads (sent_some_iff.mpr exhausted)

theorem StageRun.unplanned_iff (run : StageRun controller requested rounds result)
    (error : PlanError) :
    result = .error (.unplanned error) ↔
      ∃ stage poll sent inputs, requested = Stage.number stage ∧ rounds = poll :: sent ∧
        poll.ReadsInputs controller inputs ∧
        plan controller.profile inputs stage = .error error := by
  constructor
  · intro failed
    cases run with
    | outOfRange outside => cases failed
    | unavailable number calls unread => cases failed
    | unplanned number calls reads unplanned =>
        cases failed
        exact ⟨_, _, _, _, number, rfl, reads, unplanned⟩
    | @planned stage poll made sent faults number calls leads batches =>
        cases faults <;> cases failed
  · rintro ⟨stage, poll, sent, inputs, number, rfl, reads, unplanned⟩
    have sameStage : ∀ other : Stage, requested = other.number → other = stage := by
      intro other otherNumber
      exact Stage.eq_of_number_eq (by omega)
    cases run with
    | unavailable otherNumber calls unread => exact absurd reads (unread inputs)
    | @unplanned other _ others _ otherNumber calls otherReads otherUnplanned =>
        rw [sameStage other otherNumber, otherReads.unique reads, unplanned]
          at otherUnplanned
        cases otherUnplanned
        rfl
    | @planned other _ made _ faults otherNumber calls leads batches =>
        rcases leads with ⟨others, otherReads, planned⟩
        rw [sameStage other otherNumber, otherReads.unique reads, unplanned] at planned
        cases planned

end

theorem PlanExhausted.faults_ne_nil {controller : Controller} {plan : Plan}
    {rounds : List Round} {faults : List String}
    (exhausted : PlanExhausted controller plan rounds faults) : faults ≠ [] := by
  rcases exhausted with first | ⟨_, _, _, _, second⟩
  · exact first.faults_ne_nil
  · exact second.faults_ne_nil

/-- The result of a stage change and the answers that it got decide each other.
The stage is confirmed exactly if it is the requested one and every batch of the
plan was committed. The change is rejected exactly if a batch was exhausted, with
the faults of the last attempt of that batch. -/
theorem Controller.setStage_outcome {State : Type} (controller : Controller)
    (link : Link State) (requested : Int) (device : State) :
    (∀ stage, (controller.setStage link requested device).outcome.2 = .ok stage ↔
      requested = stage.number ∧ ∃ poll sent plan,
        (controller.setStage link requested device).rounds = poll :: sent ∧
        poll.LeadsTo controller stage plan ∧ PlanCommitted controller plan sent) ∧
    ∀ faults,
      (controller.setStage link requested device).outcome.2 =
          .error (.rejected faults) ↔
        faults ≠ [] ∧ ∃ stage poll sent plan, requested = Stage.number stage ∧
          (controller.setStage link requested device).rounds = poll :: sent ∧
          poll.LeadsTo controller stage plan ∧
          PlanExhausted controller plan sent faults := by
  have run := controller.setStage_run link requested device
  refine ⟨run.confirmed_iff, ?_⟩
  intro faults
  rw [run.rejected_iff faults]
  constructor
  · rintro ⟨stage, poll, sent, plan, number, rounds, leads, exhausted⟩
    exact ⟨exhausted.faults_ne_nil, stage, poll, sent, plan, number, rounds, leads,
      exhausted⟩
  · rintro ⟨-, described⟩
    exact described

end SignalControl
