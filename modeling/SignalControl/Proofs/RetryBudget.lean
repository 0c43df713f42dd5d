import SignalControl.Proofs.OverrideSafety

namespace SignalControl

/-! A larger retry budget only extends a stage change. Two runs of the same change
against the same device make the same rounds until the smaller budget of a batch is
spent, and only there can they part. -/

/-! ## Runs that go on where others stop -/

/-- The longer run begins as the brief one. If the outcome of the brief run is a
settled one, both are the same run, except for what they log. -/
structure Run.Extends (settled : α → Prop) (longer brief : Run State α) : Prop where
  beginning : brief.rounds <+: longer.rounds
  same : settled brief.outcome → longer.outcome = brief.outcome ∧
    longer.rounds = brief.rounds ∧ longer.device = brief.device

def Dialogue.Extends (settled : α → Prop) (longer brief : Dialogue State α) : Prop :=
  ∀ device, (longer device).Extends settled (brief device)

namespace Dialogue.Extends

variable {State α β : Type} {settled : α → Prop} {goal : β → Prop}
  {longer brief : Dialogue State α} {longerNext briefNext : α → Dialogue State β}

theorem refl (settled : α → Prop) (dialogue : Dialogue State α) :
    dialogue.Extends settled dialogue := by
  intro device
  exact ⟨List.prefix_refl _, fun _ => ⟨rfl, rfl, rfl⟩⟩

theorem of_unsettled {outcome : α} (unsettled : ¬ settled outcome)
    (longer : Dialogue State α) : longer.Extends settled (pure outcome) := by
  intro device
  exact ⟨List.nil_prefix, fun isSettled => absurd isSettled unsettled⟩

theorem logEvent (settled : Unit → Prop) (event other : LogEvent) :
    (Dialogue.logEvent event : Dialogue State Unit).Extends settled
      (Dialogue.logEvent other) := by
  intro device
  exact ⟨List.prefix_refl _, fun _ => ⟨rfl, rfl, rfl⟩⟩

/-- After a settled outcome both runs go on from the same state of the device. After
any other one the brief run is at its end. -/
theorem bind (first : longer.Extends settled brief)
    (next : ∀ outcome, settled outcome →
      (longerNext outcome).Extends goal (briefNext outcome))
    (stops : ∀ outcome, ¬ settled outcome →
      ∃ final, briefNext outcome = pure final ∧ ¬ goal final) :
    (longer >>= longerNext).Extends goal (brief >>= briefNext) := by
  intro device
  have firstRuns := first device
  by_cases isSettled : settled (brief device).outcome
  · rcases firstRuns.same isSettled with ⟨outcome, rounds, state⟩
    have nextRuns := next _ isSettled (brief device).device
    simp only [bind_apply, outcome, rounds, state]
    constructor
    case beginning =>
      exact (List.prefix_append_right_inj _).mpr nextRuns.beginning
    case same =>
      intro reached
      rcases nextRuns.same reached with ⟨sameOutcome, sameRounds, sameDevice⟩
      exact ⟨sameOutcome, by rw [sameRounds], sameDevice⟩
  · rcases stops _ isSettled with ⟨final, atEnd, unsettled⟩
    simp only [bind_apply, atEnd, pure_apply, List.append_nil]
    constructor
    case beginning =>
      exact firstRuns.beginning.trans (List.prefix_append _ _)
    case same =>
      intro reached
      exact absurd reached unsettled

theorem bind_of_always (first : longer.Extends (fun _ => True) brief)
    (next : ∀ outcome, (longerNext outcome).Extends goal (briefNext outcome)) :
    (longer >>= longerNext).Extends goal (brief >>= briefNext) := by
  apply bind first
  · intro outcome _
    exact next outcome
  · intro outcome impossible
    exact absurd trivial impossible

end Dialogue.Extends

/-! ## Stage changes with two budgets -/

namespace Controller

open Dialogue

def withRetry (controller : Controller) (retry : RetryPolicy) : Controller :=
  { controller with retry := retry }

variable {State : Type} (controller : Controller) (link : Link State)
  {larger : RetryPolicy} (budget : controller.retry.maxAttempts ≤ larger.maxAttempts)

theorem sendOnce_withRetry (retry : RetryPolicy) (batch : Batch) :
    (controller.withRetry retry).sendOnce link batch = controller.sendOnce link batch :=
  rfl

theorem pollForStage_withRetry (retry : RetryPolicy) :
    (controller.withRetry retry).pollForStage link = controller.pollForStage link :=
  rfl

include budget

theorem allowsAfter_of_smaller {number : UInt32}
    (allowed : controller.retry.allowsAfter number = true) :
    larger.allowsAfter number = true := by
  have below := RetryPolicy.allowsAfter_iff.mp allowed
  have more := UInt32.le_iff_toNat_le.mp budget
  exact RetryPolicy.allowsAfter_iff.mpr (by omega)

theorem sendFrom_extends (batch : Batch) (number : UInt32) :
    ((controller.withRetry larger).sendFrom link batch number).Extends
      (fun outcome => outcome.isCommitted = true)
      (controller.sendFrom link batch number) := by
  induction number using controller.retry.attempt_induction with
  | attempt number induction =>
      unfold sendFrom
      rw [sendOnce_withRetry]
      apply Extends.bind_of_always (Extends.refl _ _)
      intro outcome
      cases outcome with
      | committed succeeded => exact Extends.refl _ _
      | faulted succeeded faulted =>
          by_cases allowed : controller.retry.allowsAfter number = true
          · have allowedLarger : (controller.withRetry larger).retry.allowsAfter number
                = true := controller.allowsAfter_of_smaller budget allowed
            simp only [dif_pos allowed, dif_pos allowedLarger]
            apply Extends.bind_of_always (Extends.logEvent _ _ _)
            intro
            exact induction allowed
          · simp only [dif_neg allowed]
            exact Extends.of_unsettled (by simp [Outcome.isCommitted]) _

theorem sendBatches_extends (stage : Stage) (position : Nat) (batches : List Batch) :
    ((controller.withRetry larger).sendBatches link stage position batches).Extends
      (fun result => ∀ faults, result ≠ .error (.rejected faults))
      (controller.sendBatches link stage position batches) := by
  induction batches generalizing position with
  | nil => exact Extends.refl _ _
  | cons batch rest induction =>
      rw [sendBatches, sendBatches]
      by_cases empty : batch.isEmpty = true
      · rw [if_pos empty, if_pos empty]
        apply Extends.bind_of_always (Extends.refl _ _)
        intro
        exact induction (position + 1)
      · rw [if_neg empty, if_neg empty]
        apply Extends.bind (controller.sendFrom_extends link budget batch 0)
        · intro outcome committed
          cases outcome with
          | committed succeeded =>
              apply Extends.bind_of_always (Extends.refl _ _)
              intro
              exact induction (position + 1)
          | faulted succeeded faulted => cases committed
        · intro outcome notCommitted
          cases outcome with
          | committed succeeded => exact absurd rfl notCommitted
          | faulted succeeded faulted =>
              refine ⟨.error (.rejected faulted), rfl, ?_⟩
              intro notRejected
              exact notRejected faulted rfl

theorem changeStage_extends (requested : Int) :
    ((controller.withRetry larger).changeStage link requested).Extends
      (fun result => ∀ faults, result ≠ .error (.rejected faults))
      (controller.changeStage link requested) := by
  rw [changeStage, changeStage]
  cases Stage.ofInt requested with
  | error error => exact Extends.refl _ _
  | ok stage =>
      rw [pollForStage_withRetry]
      apply Extends.bind_of_always (Extends.refl _ _)
      intro polled
      cases polled with
      | error cause => exact Extends.refl _ _
      | ok inputs =>
          have sameProfile : (controller.withRetry larger).profile = controller.profile :=
            rfl
          simp only [sameProfile]
          cases plan controller.profile inputs stage with
          | error error => exact Extends.refl _ _
          | ok plan =>
              apply Extends.bind_of_always (Extends.refl _ _)
              intro
              exact controller.sendBatches_extends link budget stage 0 plan.batches

end Controller

/-- Recording the result of a stage change and logging it makes no round. -/
theorem Controller.setStage_eq_changeStage {State : Type} (controller : Controller)
    (link : Link State) (requested : Int) (device : State) :
    (controller.setStage link requested device).outcome.2 =
        (controller.changeStage link requested device).outcome ∧
      (controller.setStage link requested device).rounds =
        (controller.changeStage link requested device).rounds ∧
      (controller.setStage link requested device).device =
        (controller.changeStage link requested device).device := by
  simp [setStage, Dialogue.logEvent]

/-- A stage change that is not rejected is the same with every larger budget, in its
result as in its rounds. A rejected one makes the first rounds of those with larger
budgets. The device may answer every round by all that went before. -/
theorem Controller.setStage_withRetry {State : Type} (controller : Controller)
    (link : Link State) (requested : Int) (device : State) {larger : RetryPolicy}
    (budget : controller.retry.maxAttempts ≤ larger.maxAttempts) :
    ((∀ faults, (controller.setStage link requested device).outcome.2 ≠
        .error (.rejected faults)) →
      ((controller.withRetry larger).setStage link requested device).outcome.2 =
          (controller.setStage link requested device).outcome.2 ∧
        ((controller.withRetry larger).setStage link requested device).rounds =
          (controller.setStage link requested device).rounds ∧
        ((controller.withRetry larger).setStage link requested device).device =
          (controller.setStage link requested device).device) ∧
    (controller.setStage link requested device).rounds <+:
      ((controller.withRetry larger).setStage link requested device).rounds := by
  have change := controller.changeStage_extends link budget requested device
  rcases controller.setStage_eq_changeStage link requested device with
    ⟨briefResult, briefRounds, briefDevice⟩
  rcases (controller.withRetry larger).setStage_eq_changeStage link requested device with
    ⟨largerResult, largerRounds, largerDevice⟩
  rw [briefResult, briefRounds, briefDevice, largerResult, largerRounds, largerDevice]
  exact ⟨change.same, change.beginning⟩

/-! ## A device that refuses once

The device answers the first round of commands with an alert and accepts all later
ones. Its state is the number of rounds that it has answered. -/

def stubbornAnswer (answered : Nat) : Call → Answer
  | .fetch _ => .response Http.ok (.ok junctionPage)
  | .post _ _ _ =>
      if answered = 1 then .response Http.ok (.ok "alert_msg = \x22busy\x22;")
      else .response Http.ok (.ok Verdict.emptyAlert)

def stubbornLink : Link Nat where
  exchange := fun answered calls =>
    (.inOrder (Vector.ofFn fun position => stubbornAnswer answered (calls.get position)),
      answered + 1)

def stubbornRun (retry : RetryPolicy) : Run Nat (Controller × Except StageError Stage) :=
  (junctionController.withRetry retry).setStage stubbornLink junctionStage.number 0

/-- One attempt is too few for this device, and a third one is not made. -/
theorem stubborn_setStage_withRetry :
    (stubbornRun .single).outcome.2.toBool = false ∧
      (stubbornRun .single).rounds <+: (stubbornRun (.attempts 2)).rounds ∧
      (stubbornRun (.attempts 2)).outcome.2.toBool = true ∧
      (stubbornRun (.attempts 3)).rounds = (stubbornRun (.attempts 2)).rounds := by
  have confirmed : (stubbornRun (.attempts 2)).outcome.2.toBool = true := by
    decide +kernel
  have notRejected : ∀ faults,
      (stubbornRun (.attempts 2)).outcome.2 ≠ .error (.rejected faults) := by
    intro faults rejected
    rw [rejected] at confirmed
    cases confirmed
  have two : RetryPolicy.single.maxAttempts ≤ (RetryPolicy.attempts 2).maxAttempts := by
    decide
  have three : (RetryPolicy.attempts 2).maxAttempts ≤
      (RetryPolicy.attempts 3).maxAttempts := by decide
  have first := (junctionController.withRetry .single).setStage_withRetry stubbornLink
    junctionStage.number 0 two
  have second := (junctionController.withRetry (.attempts 2)).setStage_withRetry
    stubbornLink junctionStage.number 0 three
  exact ⟨by decide +kernel, first.2, confirmed, (second.1 notRejected).2.1⟩

end SignalControl
