import SignalControl.Proofs.Rounds

namespace SignalControl

/-! The rounds in which one batch is sent, for a device that answers as it likes.
Every attempt is a round of its own, and what sending the batch comes to is
decided by the last one. -/

/-! ## Attempts of one batch -/

/-- The rounds in which a batch is sent that has some number of attempts left.
Each of them posts the whole batch, only the last one may be fully accepted, and
short of that no attempt is left over. -/
structure Attempts (controller : Controller) (batch : Batch) (budget : Nat)
    (rounds : List Round) : Prop where
  whole : ∀ round ∈ rounds, round.calls = batch.map controller.commandCall
  nonempty : rounds ≠ []
  withinBudget : rounds.length ≤ budget
  repeated : ∀ round ∈ rounds.dropLast, round.isAccepted = false
  ended : ∀ last ∈ rounds.getLast?,
    last.isAccepted = true ∨ rounds.length = budget

namespace Attempts

variable {controller : Controller} {batch : Batch} {budget : Nat} {round : Round}
  {rounds : List Round}

theorem single (whole : round.calls = batch.map controller.commandCall)
    (ended : round.isAccepted = true ∨ budget = 0) :
    Attempts controller batch (budget + 1) [round] where
  whole := by simpa using whole
  nonempty := by simp
  withinBudget := by simp
  repeated := by simp
  ended := by
    intro last isLast
    have same : round = last := by simpa using isLast
    subst same
    rcases ended with accepted | noneLeft
    · exact .inl accepted
    · exact .inr (by simp [noneLeft])

theorem cons (whole : round.calls = batch.map controller.commandCall)
    (refused : round.isAccepted = false)
    (attempts : Attempts controller batch budget rounds) :
    Attempts controller batch (budget + 1) (round :: rounds) where
  whole := by
    intro member isMember
    rcases List.mem_cons.mp isMember with equal | later
    · rw [equal]; exact whole
    · exact attempts.whole member later
  nonempty := by simp
  withinBudget := by simpa using attempts.withinBudget
  repeated := by
    intro member isMember
    rw [List.dropLast_cons_of_ne_nil attempts.nonempty] at isMember
    rcases List.mem_cons.mp isMember with equal | later
    · rw [equal]; exact refused
    · exact attempts.repeated member later
  ended := by
    intro last isLast
    rw [List.getLast?_cons_of_ne_nil attempts.nonempty] at isLast
    simpa using attempts.ended last isLast

/-- Attempts end where they end: they are no proper beginning of others. -/
theorem eq_of_prefix {longer : List Round}
    (attempts : Attempts controller batch budget rounds)
    (others : Attempts controller batch budget longer)
    (beginning : rounds <+: longer) : rounds = longer := by
  rcases beginning with ⟨rest, rfl⟩
  cases rest with
  | nil => simp
  | cons next rest =>
      exfalso
      have someLast : rounds.getLast?.isSome = true := by
        simpa using attempts.nonempty
      rcases Option.isSome_iff_exists.mp someLast with ⟨last, isLast⟩
      have notAccepted : last.isAccepted = false := by
        apply others.repeated
        rw [List.dropLast_append_of_ne_nil (List.cons_ne_nil next rest)]
        exact List.mem_append_left _ (List.mem_of_getLast? isLast)
      have spent : rounds.length = budget := by
        rcases attempts.ended last isLast with accepted | spent
        · rw [notAccepted] at accepted
          cases accepted
        · exact spent
      have bound := others.withinBudget
      simp only [List.length_append, List.length_cons] at bound
      omega

end Attempts

/-! ## Sending one batch -/

namespace Round

def acceptedNames (round : Round) (batch : Batch) : List String :=
  ((round.completion.settled batch).filter fun settled =>
    settled.2.accepts).map fun settled => settled.1.name

def outcome (round : Round) (batch : Batch) : Outcome :=
  if round.isAccepted then .committed (round.acceptedNames batch)
  else .faulted (round.acceptedNames batch) (round.faults batch)

end Round

namespace Controller

open Dialogue

variable {State : Type} (controller : Controller) (link : Link State)
  (batch : Batch) (device : State)

def attempt : Round :=
  { calls := batch.map controller.commandCall
    completion := (link.exchange device (batch.map controller.commandCall)).1 }

theorem sendOnce_rounds :
    (controller.sendOnce link batch device).rounds =
      [controller.attempt link batch device] := by
  simp [sendOnce, attempt]

theorem acceptedNames_verdicts (round : Round) :
    Attempt.acceptedNames (verdicts round.completion batch) =
      round.acceptedNames batch := by
  simp [Attempt.acceptedNames, verdicts, Round.acceptedNames, List.filter_map,
    Function.comp_def, isAccepted_commandEnvelope]

theorem faultedNames_verdicts (round : Round) :
    Attempt.faultedNames (verdicts round.completion batch) =
      round.faults batch := by
  simp [Attempt.faultedNames, verdicts, Round.faults, List.filter_map,
    Function.comp_def, isAccepted_commandEnvelope]

theorem map_fst_verdicts_perm {round : Round}
    (each : batch.length = round.calls.length) :
    (batch.map Command.name).Perm
      ((verdicts round.completion batch).map Prod.fst) := by
  have settled := (round.completion.settled_perm each).map Prod.fst
  rw [round.completion.map_fst_answered each] at settled
  simpa [verdicts, Function.comp_def] using (settled.map Command.name).symm

theorem sendOnce_outcome :
    (controller.sendOnce link batch device).outcome =
      (controller.attempt link batch device).outcome batch := by
  have each : batch.length = (controller.attempt link batch device).calls.length := by
    simp [attempt]
  have finish := Attempt.finish_settleAll_start
    (map_fst_verdicts_perm batch each)
  rw [faultedNames_verdicts, acceptedNames_verdicts,
    if_congr (Round.faults_eq_nil_iff _ each) rfl rfl] at finish
  rw [Round.outcome, ← finish]
  simp [sendOnce, attempt]

/-! ## The loop over the attempts -/

theorem sendFrom_of_ended (number : UInt32)
    (ended : (controller.attempt link batch device).isAccepted = true ∨
      controller.retry.allowsAfter number = false) :
    (controller.sendFrom link batch number device).rounds =
        [controller.attempt link batch device] ∧
      (controller.sendFrom link batch number device).outcome =
        (controller.attempt link batch device).outcome batch := by
  have outcome := controller.sendOnce_outcome link batch device
  have rounds := controller.sendOnce_rounds link batch device
  rw [sendFrom, bind_apply, rounds, outcome, Round.outcome]
  by_cases accepted : (controller.attempt link batch device).isAccepted = true
  · simp [accepted]
  · have spent : controller.retry.allowsAfter number = false :=
      ended.resolve_left accepted
    simp [accepted, spent]

theorem sendFrom_of_repeated (number : UInt32)
    (refused : (controller.attempt link batch device).isAccepted = false)
    (allowed : controller.retry.allowsAfter number = true) :
    (controller.sendFrom link batch number device).rounds =
        controller.attempt link batch device ::
          (controller.sendFrom link batch (RetryPolicy.next number)
            (controller.sendOnce link batch device).device).rounds ∧
      (controller.sendFrom link batch number device).outcome =
        (controller.sendFrom link batch (RetryPolicy.next number)
          (controller.sendOnce link batch device).device).outcome := by
  have outcome := controller.sendOnce_outcome link batch device
  have rounds := controller.sendOnce_rounds link batch device
  rw [sendFrom, bind_apply, rounds, outcome, Round.outcome]
  simp [refused, allowed, logEvent]

theorem sendFrom_attempts (budget : Nat) (number : UInt32) (device : State)
    (left : number.toNat + (budget + 1) = controller.retry.maxAttempts.toNat) :
    Attempts controller batch (budget + 1)
        (controller.sendFrom link batch number device).rounds ∧
      ∃ last ∈ (controller.sendFrom link batch number device).rounds.getLast?,
        (controller.sendFrom link batch number device).outcome =
          last.outcome batch := by
  -- The attempts that are left go down as their number goes up.
  induction budget generalizing number device with
  | zero =>
      have spent : controller.retry.allowsAfter number = false := by
        rw [Bool.eq_false_iff, ne_eq, RetryPolicy.allowsAfter_iff]
        omega
      rcases controller.sendFrom_of_ended link batch device number (.inr spent) with
        ⟨rounds, outcome⟩
      rw [rounds, outcome]
      exact ⟨.single rfl (.inr rfl), _, rfl, rfl⟩
  | succ budget induction =>
      have allowed : controller.retry.allowsAfter number = true := by
        rw [RetryPolicy.allowsAfter_iff]
        omega
      by_cases accepted : (controller.attempt link batch device).isAccepted = true
      · rcases controller.sendFrom_of_ended link batch device number
          (.inl accepted) with ⟨rounds, outcome⟩
        rw [rounds, outcome]
        exact ⟨.single rfl (.inl accepted), _, rfl, rfl⟩
      · have refused := Bool.eq_false_iff.mpr accepted
        rcases controller.sendFrom_of_repeated link batch device number refused
          allowed with ⟨rounds, outcome⟩
        have advanced := RetryPolicy.toNat_next_of_allowsAfter allowed
        rcases induction (RetryPolicy.next number)
          (controller.sendOnce link batch device).device (by omega) with
          ⟨attempts, last, isLast, lastOutcome⟩
        rw [rounds, outcome]
        refine ⟨.cons rfl refused attempts, last, ?_, lastOutcome⟩
        rw [List.getLast?_cons_of_ne_nil attempts.nonempty]
        exact isLast

/-- Sending a batch makes attempts within the budget, and comes to what the last
of them comes to. -/
theorem sendBatch_attempts :
    Attempts controller batch controller.retry.maxAttempts.toNat
        (controller.sendBatch link batch device).rounds ∧
      ∃ last ∈ (controller.sendBatch link batch device).rounds.getLast?,
        (controller.sendBatch link batch device).outcome = last.outcome batch := by
  have positive := controller.retry.one_le_maxAttempts
  rcases Nat.exists_eq_add_of_le' positive with ⟨budget, equal⟩
  rw [sendBatch, equal]
  exact controller.sendFrom_attempts link batch budget 0 device (by simp [equal])

end Controller

end SignalControl
