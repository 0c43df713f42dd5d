import SignalControl.Proofs.Attempts

namespace SignalControl

/-! Batches that are sent one after another. A batch is committed when one of its
attempts was fully accepted, and exhausted when its budget was spent without
such an attempt; no batch is sent after an exhausted one. -/

/-! ## One batch -/

def BatchRounds (controller : Controller) (batch : Batch)
    (rounds : List Round) : Prop :=
  if batch = [] then rounds = []
  else Attempts controller batch controller.retry.maxAttempts.toNat rounds

structure Committed (controller : Controller) (batch : Batch)
    (rounds : List Round) : Prop where
  sent : BatchRounds controller batch rounds
  accepted : batch ≠ [] → ∃ round ∈ rounds, round.isAccepted = true

structure Exhausted (controller : Controller) (batch : Batch)
    (rounds : List Round) (faults : List String) : Prop where
  nonempty : batch ≠ []
  sent : BatchRounds controller batch rounds
  refused : ∀ round ∈ rounds, round.isAccepted = false
  lastFaults : ∃ last ∈ rounds.getLast?, faults = last.faults batch

section

variable {controller : Controller} {batch : Batch} {rounds : List Round}
  {faults : List String}

theorem BatchRounds.of_nonempty (nonempty : batch ≠ []) :
    BatchRounds controller batch rounds ↔
      Attempts controller batch controller.retry.maxAttempts.toNat rounds := by
  rw [BatchRounds, if_neg nonempty]

theorem BatchRounds.whole (sent : BatchRounds controller batch rounds) :
    ∀ round ∈ rounds, round.calls = batch.map controller.commandCall := by
  by_cases empty : batch = []
  · rw [BatchRounds, if_pos empty] at sent
    simp [sent]
  · exact ((BatchRounds.of_nonempty empty).mp sent).whole

/-- The beginning of the rounds decides where those of a batch end. -/
theorem BatchRounds.eq_of_append_eq {others later laterOthers : List Round}
    (sent : BatchRounds controller batch rounds)
    (sentOthers : BatchRounds controller batch others)
    (equal : rounds ++ later = others ++ laterOthers) : rounds = others := by
  by_cases empty : batch = []
  · rw [BatchRounds, if_pos empty] at sent sentOthers
    rw [sent, sentOthers]
  · rw [BatchRounds.of_nonempty empty] at sent sentOthers
    have beginning : rounds <+: others ++ laterOthers := ⟨later, equal⟩
    rcases List.prefix_or_prefix_of_prefix beginning (List.prefix_append _ _) with
      shorter | longer
    · exact sent.eq_of_prefix sentOthers shorter
    · exact (sentOthers.eq_of_prefix sent longer).symm

theorem committed_of_empty : Committed controller [] [] where
  sent := by simp [BatchRounds]
  accepted := by simp

theorem Exhausted.not_committed (exhausted : Exhausted controller batch rounds faults) :
    ¬ Committed controller batch rounds := by
  intro committed
  rcases committed.accepted exhausted.nonempty with ⟨round, member, accepted⟩
  rw [exhausted.refused round member] at accepted
  cases accepted

theorem Exhausted.faults_ne_nil
    (exhausted : Exhausted controller batch rounds faults) : faults ≠ [] := by
  rcases exhausted.lastFaults with ⟨last, isLast, equal⟩
  have member := List.mem_of_getLast? isLast
  have each : batch.length = last.calls.length := by
    rw [exhausted.sent.whole last member, List.length_map]
  rw [equal, ne_eq, last.faults_eq_nil_iff each, exhausted.refused last member]
  decide

end

theorem Attempts.refused_of_last {controller : Controller} {batch : Batch}
    {budget : Nat} {rounds : List Round} {last : Round}
    (attempts : Attempts controller batch budget rounds)
    (isLast : rounds.getLast? = some last) (refused : last.isAccepted = false) :
    ∀ round ∈ rounds, round.isAccepted = false := by
  intro round member
  rw [← List.dropLast_append_getLast? last isLast] at member
  rcases List.mem_append.mp member with before | atEnd
  · exact attempts.repeated round before
  · rw [List.mem_singleton.mp atEnd]
    exact refused

theorem Controller.sendBatch_outcome {State : Type} (controller : Controller)
    (link : Link State) {batch : Batch} (nonempty : batch ≠ []) (device : State) :
    (∃ succeeded,
        (controller.sendBatch link batch device).outcome = .committed succeeded ∧
        Committed controller batch (controller.sendBatch link batch device).rounds) ∨
      ∃ succeeded faults,
        (controller.sendBatch link batch device).outcome =
          .faulted succeeded faults ∧
        Exhausted controller batch (controller.sendBatch link batch device).rounds
          faults := by
  rcases controller.sendBatch_attempts link batch device with
    ⟨attempts, last, isLast, outcome⟩
  have sent := (BatchRounds.of_nonempty nonempty).mpr attempts
  rw [outcome, Round.outcome]
  cases accepted : last.isAccepted with
  | true =>
      refine .inl ⟨_, if_pos rfl, sent, ?_⟩
      intro
      exact ⟨last, List.mem_of_getLast? isLast, accepted⟩
  | false =>
      refine .inr ⟨_, _, if_neg (by decide), nonempty, sent, ?_, last, isLast, rfl⟩
      exact attempts.refused_of_last isLast accepted

/-! ## A sequence of batches -/

/-- The rounds of a sequence of batches, with the faults of the exhausted one if
there is one. -/
inductive Sent (controller : Controller) :
    List Batch → List Round → Option (List String) → Prop
  | nil : Sent controller [] [] none
  | committed {batch rest rounds later faults} :
      Committed controller batch rounds → Sent controller rest later faults →
      Sent controller (batch :: rest) (rounds ++ later) faults
  | exhausted {batch rest rounds faults} :
      Exhausted controller batch rounds faults →
      Sent controller (batch :: rest) rounds (some faults)

theorem Sent.of_singleton {controller : Controller} {batch : Batch}
    {rounds : List Round} {faults : Option (List String)}
    (sent : Sent controller [batch] rounds faults) :
    BatchRounds controller batch rounds ∧
      (faults = none → Committed controller batch rounds) := by
  cases sent with
  | exhausted exhausted =>
      refine ⟨exhausted.sent, ?_⟩
      intro impossible
      cases impossible
  | committed committed rest =>
      cases rest
      rw [List.append_nil]
      exact ⟨committed.sent, fun _ => committed⟩

def sentResult (stage : Stage) : Option (List String) → Except StageError Stage
  | none => .ok stage
  | some faults => .error (.rejected faults)

theorem Controller.sendBatches_sent {State : Type} (controller : Controller)
    (link : Link State) (stage : Stage) (position : Nat) (batches : List Batch)
    (device : State) :
    ∃ faults,
      Sent controller batches
        (controller.sendBatches link stage position batches device).rounds faults ∧
      (controller.sendBatches link stage position batches device).outcome =
        sentResult stage faults := by
  induction batches generalizing position device with
  | nil => exact ⟨none, .nil, rfl⟩
  | cons batch rest induction =>
      rw [sendBatches]
      by_cases empty : batch = []
      · subst empty
        rcases induction (position + 1) device with ⟨faults, sent, result⟩
        refine ⟨faults, ?_, ?_⟩
        · simpa [Dialogue.logEvent] using Sent.committed committed_of_empty sent
        · simpa [Dialogue.logEvent] using result
      · have notEmpty : ¬ batch.isEmpty = true := by simpa using empty
        rw [if_neg notEmpty, Dialogue.bind_apply]
        rcases controller.sendBatch_outcome link empty device with
          ⟨succeeded, outcome, committed⟩ | ⟨succeeded, faults, outcome, exhausted⟩
        · rcases induction (position + 1)
            (controller.sendBatch link batch device).device with ⟨faults, sent, result⟩
          refine ⟨faults, ?_, ?_⟩
          · simpa [outcome, Dialogue.logEvent] using Sent.committed committed sent
          · simpa [outcome, Dialogue.logEvent] using result
        · have sent : Sent controller (batch :: rest) _ (some faults) :=
            .exhausted exhausted
          refine ⟨some faults, ?_, ?_⟩
          · simpa [outcome] using sent
          · simp [outcome, sentResult]

theorem Sent.unique {controller : Controller} {batches : List Batch}
    {rounds : List Round} {faults others : Option (List String)}
    (sent : Sent controller batches rounds faults)
    (sentOthers : Sent controller batches rounds others) : faults = others := by
  generalize same : rounds = copy at sentOthers
  induction sent generalizing others copy with
  | nil => cases sentOthers; rfl
  | @committed batch rest rounds later faults committed sent induction =>
      cases sentOthers with
      | @committed _ _ otherRounds otherLater _ otherCommitted otherSent =>
          -- Attempts end where they end, so the rounds are cut at one place.
          have equal := committed.sent.eq_of_append_eq otherCommitted.sent same
          subst equal
          exact induction _ (List.append_cancel_left same) otherSent
      | exhausted exhausted =>
          have equal := committed.sent.eq_of_append_eq exhausted.sent
            (same.trans (List.append_nil _).symm)
          subst equal
          exact absurd committed exhausted.not_committed
  | @exhausted batch rest rounds faults exhausted =>
      cases sentOthers with
      | @committed _ _ otherRounds otherLater _ committed otherSent =>
          have equal := exhausted.sent.eq_of_append_eq committed.sent
            ((List.append_nil _).trans same)
          subst equal
          exact absurd committed exhausted.not_committed
      | exhausted otherExhausted =>
          subst same
          rcases exhausted.lastFaults with ⟨last, isLast, equal⟩
          rcases otherExhausted.lastFaults with ⟨otherLast, isOtherLast, otherEqual⟩
          have sameLast : last = otherLast :=
            Option.some.inj (isLast.symm.trans isOtherLast)
          rw [equal, otherEqual, sameLast]

end SignalControl
