import Mathlib.Data.ENat.Lattice
import Mathlib.Logic.Function.Iterate
import SignalControl.Config.Client
import SignalControl.Proofs.RetryBudget
import SignalControl.Proofs.WorkBound

namespace SignalControl

/-! How many attempts are made of a batch. The loop over the attempts counts in words of
32 bits, and still its count is exact: it goes on up to the first fully accepted attempt
or until the budget is spent, however large the budget is. -/

/-! ## Budgets as unbounded numbers -/

namespace RetryPolicy

theorem toNat_maxAttempts_attempts (count : UInt32) :
    (attempts count).maxAttempts.toNat = max 1 count.toNat := by
  rw [attempts, maxAttempts, UInt32.toNat_max, Nat.max_comm]
  rfl

theorem maxAttempts_ofCount (count : UInt32) :
    (ofCount count).maxAttempts = (attempts count).maxAttempts := by
  by_cases few : count ≤ 1
  · have bound := UInt32.le_iff_toNat_le.mp few
    rw [ofCount, if_pos few, ← UInt32.toNat_inj, toNat_maxAttempts_attempts]
    exact (Nat.max_eq_left bound).symm
  · rw [ofCount, if_neg few]

theorem allowsAfter_attempts_iff {count number : UInt32} :
    (attempts count).allowsAfter number = true ↔
      number.toNat + 1 < max 1 count.toNat := by
  rw [allowsAfter_iff, toNat_maxAttempts_attempts]

theorem allowsAfter_congr {policy other : RetryPolicy}
    (same : policy.maxAttempts = other.maxAttempts) :
    policy.allowsAfter = other.allowsAfter := by
  funext number
  rw [allowsAfter, allowsAfter, same]

section

variable {policy : RetryPolicy} {number : UInt32}
  (allowed : policy.allowsAfter number = true)

include allowed

theorem toNat_add_one_of_allowsAfter : (number + 1).toNat = number.toNat + 1 := by
  -- The number is below the budget, which is a word itself.
  have below := toNat_lt_of_allowsAfter allowed
  have bound := policy.maxAttempts.toNat_lt_size
  rw [UInt32.toNat_add]
  exact Nat.mod_eq_of_lt (below.trans bound)

theorem next_eq_add_one : next number = number + 1 := by
  rw [← UInt32.toNat_inj, toNat_next_of_allowsAfter allowed,
    toNat_add_one_of_allowsAfter allowed]

end

end RetryPolicy

namespace Controller

variable {State : Type} (controller : Controller) (link : Link State)
  (batch : Batch) (device : State)

/-! ## Attempts without a budget -/

def deviceAfter (made : Nat) : State :=
  (fun current => (controller.sendOnce link batch current).device)^[made] device

def attemptAfter (made : Nat) : Round :=
  controller.attempt link batch (controller.deviceAfter link batch device made)

/-- The number, counted from one, of the first fully accepted attempt. It is infinite
if there is none, however often the batch is sent. -/
noncomputable def firstAccepted : ℕ∞ :=
  ⨅ (made : Nat)
    (_ : (controller.attemptAfter link batch device made).isAccepted = true),
    ((made + 1 : Nat) : ℕ∞)

theorem deviceAfter_succ (made : Nat) :
    controller.deviceAfter link batch device (made + 1) =
      (controller.sendOnce link batch
        (controller.deviceAfter link batch device made)).device :=
  Function.iterate_succ_apply' _ _ _

theorem lt_firstAccepted_iff {made : Nat} :
    (made : ℕ∞) < controller.firstAccepted link batch device ↔
      ∀ earlier < made,
        (controller.attemptAfter link batch device earlier).isAccepted = false := by
  rw [← ENat.add_one_le_iff (ENat.natCast_ne_top made), firstAccepted, le_iInf₂_iff]
  constructor
  · intro bound earlier before
    rw [Bool.eq_false_iff]
    intro accepted
    have after := bound earlier accepted
    norm_cast at after
    omega
  · intro refused earlier accepted
    norm_cast
    by_contra before
    rw [refused earlier (by omega)] at accepted
    cases accepted

theorem isCommitted_sendOnce :
    (controller.sendOnce link batch device).outcome.isCommitted =
      (controller.attempt link batch device).isAccepted := by
  rw [sendOnce_outcome, Round.outcome]
  cases (controller.attempt link batch device).isAccepted <;> rfl

/-! ## The places in the loop -/

/-- The loop over the attempts makes one in this state of the device, after so many others
and under this number. The numbers are words: after the largest one comes zero. -/
inductive Reaches : Nat → UInt32 → State → Prop
  | start : Reaches 0 0 device
  | again {made : Nat} {number : UInt32} {current : State} :
      Reaches made number current →
      (controller.sendOnce link batch current).outcome.isCommitted = false →
      controller.retry.allowsAfter number = true →
      Reaches (made + 1) (number + 1) (controller.sendOnce link batch current).device

section

variable {controller link batch device} {made : Nat} {number : UInt32} {current : State}

/-- At every place the word that counts the attempts is their number. -/
theorem Reaches.exact (reaches : controller.Reaches link batch device made number current) :
    number.toNat = made ∧ current = controller.deviceAfter link batch device made ∧
      made < controller.retry.maxAttempts.toNat ∧
      ∀ earlier < made,
        (controller.attemptAfter link batch device earlier).isAccepted = false := by
  induction reaches with
  | start =>
      have positive := controller.retry.one_le_maxAttempts
      exact ⟨rfl, rfl, by omega, by simp⟩
  | @again made number current reaches faulted allowed induction =>
      rcases induction with ⟨counted, atDevice, -, refused⟩
      have below := RetryPolicy.toNat_lt_of_allowsAfter allowed
      rw [RetryPolicy.toNat_add_one_of_allowsAfter allowed, deviceAfter_succ, ← atDevice,
        counted]
      refine ⟨rfl, rfl, by omega, ?_⟩
      intro earlier before
      rcases Nat.lt_succ_iff_lt_or_eq.mp before with sooner | here
      · exact refused earlier sooner
      · rw [here, attemptAfter, ← atDevice, ← isCommitted_sendOnce]
        exact faulted

theorem exists_reaches (within : made < controller.retry.maxAttempts.toNat)
    (refused : ∀ earlier < made,
      (controller.attemptAfter link batch device earlier).isAccepted = false) :
    ∃ number, controller.Reaches link batch device made number
      (controller.deviceAfter link batch device made) := by
  induction made with
  | zero => exact ⟨0, .start⟩
  | succ made induction =>
      rcases induction (by omega) (fun earlier sooner => refused earlier (by omega)) with
        ⟨number, before⟩
      have allowed : controller.retry.allowsAfter number = true := by
        rw [RetryPolicy.allowsAfter_iff, before.exact.1]
        exact within
      have faulted := refused made (Nat.lt_succ_self made)
      rw [attemptAfter, ← isCommitted_sendOnce] at faulted
      rw [deviceAfter_succ]
      exact ⟨number + 1, before.again faulted allowed⟩

theorem lt_min_firstAccepted_iff :
    (made : ℕ∞) < min (controller.firstAccepted link batch device)
        controller.retry.maxAttempts.toNat ↔
      made < controller.retry.maxAttempts.toNat ∧ ∀ earlier < made,
        (controller.attemptAfter link batch device earlier).isAccepted = false := by
  rw [lt_min_iff, lt_firstAccepted_iff, Nat.cast_lt, and_comm]

theorem reaches_iff :
    controller.Reaches link batch device made number current ↔
      (made : ℕ∞) < min (controller.firstAccepted link batch device)
        controller.retry.maxAttempts.toNat ∧
      number.toNat = made ∧ current = controller.deviceAfter link batch device made := by
  rw [lt_min_firstAccepted_iff]
  constructor
  · intro reaches
    rcases reaches.exact with ⟨counted, atDevice, within, refused⟩
    exact ⟨⟨within, refused⟩, counted, atDevice⟩
  · rintro ⟨⟨within, refused⟩, counted, rfl⟩
    rcases exists_reaches within refused with ⟨other, reaches⟩
    have same : other = number :=
      UInt32.toNat_inj.mp (reaches.exact.1.trans counted.symm)
    rw [← same]
    exact reaches

/-- What is left of the loop at a place is the loop from there on. -/
theorem Reaches.rounds_sendBatch
    (reaches : controller.Reaches link batch device made number current) :
    (controller.sendBatch link batch device).rounds =
      (List.range made).map (controller.attemptAfter link batch device) ++
        (controller.sendFrom link batch number current).rounds := by
  induction reaches with
  | start => rfl
  | @again made number current reaches faulted allowed induction =>
      rw [isCommitted_sendOnce] at faulted
      rcases controller.sendFrom_of_repeated link batch current number faulted allowed with
        ⟨rounds, -⟩
      rw [induction, rounds, RetryPolicy.next_eq_add_one allowed, List.range_succ,
        List.map_append, List.append_assoc, reaches.exact.2.1]
      rfl

theorem Reaches.rounds_of_last
    (reaches : controller.Reaches link batch device made number current)
    (isLast : ∀ number current,
      ¬ controller.Reaches link batch device (made + 1) number current) :
    (controller.sendBatch link batch device).rounds =
      (List.range (made + 1)).map (controller.attemptAfter link batch device) := by
  have ended : (controller.attempt link batch current).isAccepted = true ∨
      controller.retry.allowsAfter number = false := by
    by_contra goesOn
    rw [not_or, Bool.not_eq_true, Bool.not_eq_false, ← isCommitted_sendOnce] at goesOn
    exact isLast _ _ (reaches.again goesOn.1 goesOn.2)
  rw [reaches.rounds_sendBatch, (controller.sendFrom_of_ended link batch _ _ ended).1,
    List.range_succ, List.map_append, reaches.exact.2.1]
  rfl

end

/-! ## Counting the attempts -/

/-- The loop makes exactly so many attempts, each under the number of those before. -/
structure MakesAttempts (count : Nat) : Prop where
  rounds : (controller.sendBatch link batch device).rounds =
    (List.range count).map (controller.attemptAfter link batch device)
  places : ∀ made number current,
    controller.Reaches link batch device made number current ↔
      made < count ∧ number.toNat = made ∧
        current = controller.deviceAfter link batch device made
  rest : ∀ made number current,
    controller.Reaches link batch device made number current →
      (controller.sendFrom link batch number current).rounds =
        (controller.sendBatch link batch device).rounds.drop made

theorem exists_makesAttempts :
    ∃ count : Nat, (count : ℕ∞) = min (controller.firstAccepted link batch device)
        controller.retry.maxAttempts.toNat ∧
      controller.MakesAttempts link batch device count := by
  have finite : min (controller.firstAccepted link batch device)
      controller.retry.maxAttempts.toNat ≠ ⊤ :=
    ne_top_of_le_ne_top (ENat.natCast_ne_top _) (min_le_right _ _)
  rcases ENat.ne_top_iff_exists.mp finite with ⟨count, isLeast⟩
  have places : ∀ made number current,
      controller.Reaches link batch device made number current ↔
        made < count ∧ number.toNat = made ∧
          current = controller.deviceAfter link batch device made := by
    intro made number current
    rw [reaches_iff, ← isLeast, Nat.cast_lt]
  have positive : 0 < count := ((places 0 0 device).mp .start).1
  rcases Nat.exists_eq_succ_of_ne_zero positive.ne' with ⟨last, rfl⟩
  have beforeEnd : (last : ℕ∞) < min (controller.firstAccepted link batch device)
      controller.retry.maxAttempts.toNat := by
    rw [← isLeast, Nat.cast_lt]
    exact Nat.lt_succ_self last
  rcases lt_min_firstAccepted_iff.mp beforeEnd with ⟨within, refused⟩
  rcases exists_reaches within refused with ⟨number, atLast⟩
  refine ⟨last + 1, isLeast, ?_, places, ?_⟩
  · apply atLast.rounds_of_last
    intro number current further
    exact Nat.lt_irrefl _ ((places _ _ _).mp further).1
  · intro made number current reaches
    rw [reaches.rounds_sendBatch, List.drop_left' (by simp)]

theorem sendFrom_withRetry_congr {policy other : RetryPolicy}
    (same : policy.maxAttempts = other.maxAttempts) (number : UInt32) :
    (controller.withRetry policy).sendFrom link batch number =
      (controller.withRetry other).sendFrom link batch number := by
  have sameBudget : (controller.withRetry policy).retry.maxAttempts =
      (controller.withRetry other).retry.maxAttempts := same
  have sameAnswers := RetryPolicy.allowsAfter_congr sameBudget
  induction number using policy.attempt_induction with
  | attempt number induction =>
      unfold sendFrom
      rw [sendOnce_withRetry, sendOnce_withRetry]
      congr 1
      funext outcome
      cases outcome with
      | committed succeeded => rfl
      | faulted succeeded faulted =>
          by_cases allowed : (controller.withRetry policy).retry.allowsAfter number = true
          · have allowedOther := sameAnswers ▸ allowed
            simp only [dif_pos allowed, dif_pos allowedOther, sameBudget, induction allowed]
          · have notAllowedOther := sameAnswers ▸ allowed
            simp only [dif_neg allowed, dif_neg notAllowedOther]

/-- The loop over the attempts counts exactly. Another attempt is allowed as by unbounded
arithmetic, and a batch is sent up to the first accepted attempt or until the budget is
spent, whichever comes first. A configured budget is the same one. -/
theorem sendBatch_makesAttempts (count : UInt32) :
    (∀ number : UInt32, (RetryPolicy.attempts count).allowsAfter number = true ↔
      number.toNat + 1 < max 1 count.toNat) ∧
    (∃ made : Nat, (made : ℕ∞) = min (controller.firstAccepted link batch device)
        ((max 1 count.toNat : Nat) : ℕ∞) ∧
      (controller.withRetry (.attempts count)).MakesAttempts link batch device made) ∧
    ∀ client : Config.Client, client.transport.batchAttempts = count →
      (controller.withRetry client.retryPolicy).sendBatch link batch =
        (controller.withRetry (.attempts count)).sendBatch link batch := by
  refine ⟨fun number => RetryPolicy.allowsAfter_attempts_iff, ?_, ?_⟩
  · rcases (controller.withRetry (.attempts count)).exists_makesAttempts link batch device with
      ⟨made, isLeast, makes⟩
    refine ⟨made, ?_, makes⟩
    rw [isLeast, ← RetryPolicy.toNat_maxAttempts_attempts]
    rfl
  · rintro client rfl
    exact controller.sendFrom_withRetry_congr link batch
      (RetryPolicy.maxAttempts_ofCount client.transport.batchAttempts) 0

end Controller

/-! ## The largest budget

A device that refuses everything is sent the batch as often as a word can count. The last
attempt has the largest number but one, so that no sum leaves the words. -/

def tirelessClient : Config.Client where
  transport := { batchAttempts := 4294967295 }

def tirelessBatch : Batch := [⟨"M", 0, .on⟩]

theorem refusing_firstAccepted :
    crowdedController.firstAccepted refusingLink tirelessBatch () = ⊤ := by
  rw [ENat.eq_top_iff_forall_gt]
  intro made
  rw [Controller.lt_firstAccepted_iff]
  intro earlier _
  have refused :
      (crowdedController.attempt refusingLink tirelessBatch ()).isAccepted = false := by
    decide +kernel
  exact refused

theorem tireless_makesAttempts :
    tirelessClient.transport.batchAttempts = 4294967295 ∧
    ((crowdedController.withRetry tirelessClient.retryPolicy).sendBatch refusingLink
      tirelessBatch ()).rounds.length = 4294967295 ∧
    (crowdedController.withRetry (.attempts 4294967295)).Reaches refusingLink tirelessBatch ()
      4294967294 4294967294 () ∧
    (RetryPolicy.attempts 4294967295).allowsAfter 4294967294 = false := by
  rcases crowdedController.sendBatch_makesAttempts refusingLink tirelessBatch () 4294967295 with
    ⟨exactly, ⟨made, isLeast, makes⟩, configured⟩
  have size : (4294967295 : UInt32).toNat = 4294967295 := rfl
  rw [refusing_firstAccepted, min_eq_right le_top, Nat.cast_inj, size] at isLeast
  have all : made = 4294967295 := isLeast.trans (Nat.max_eq_right (by decide))
  refine ⟨rfl, ?_, ?_, ?_⟩
  · rw [configured tirelessClient rfl, makes.rounds, List.length_map, List.length_range, all]
  · exact (makes.places _ _ _).mpr ⟨by omega, rfl, Subsingleton.elim _ _⟩
  · rw [Bool.eq_false_iff, ne_eq, exactly, size]
    decide

end SignalControl
