import SignalControl.Proofs.OverrideBatch
import SignalControl.Proofs.ProfileAcceptance
import SignalControl.Proofs.StageTrace

namespace SignalControl

/-! How much one stage change may ask of a device. A profile has at most one input
for each of the eight phases, however long its description is, so plans are short,
and every batch of a plan is sent only so many times. -/

namespace Plan

variable {profile : Profile} {inputs : Inputs} {plan : Plan} {phase : Nat}
  {names : List String} {records : List InputRecord}

theorem length_of_lookupAll (found : lookupAll inputs names = .ok records) :
    records.length = names.length := by
  have lookups := congrArg List.length (lookupAll_eq_ok_iff.mp found)
  simpa using lookups.symm

theorem length_competitors_lt {target : String}
    (configured : target ∈ profile.stageInputs.names) :
    (competitors profile target).length < profile.stageInputs.names.length :=
  List.length_filter_lt_length_iff_exists.mpr ⟨target, configured, by simp⟩

/-! ## Plans -/

theorem length_ofReset_le (planned : ofReset profile inputs = .ok plan) :
    plan.batches.flatten.length ≤ profile.stageInputs.names.length + 1 := by
  rcases ofReset_eq_ok_iff.mp planned with ⟨manual, phases, -, found, rfl⟩
  have first : (release manual).toList.length ≤ 1 := Option.length_toList_le
  have second : (phases.filterMap release).length ≤ phases.length :=
    List.length_filterMap_le _ _
  have all := length_of_lookupAll found
  simp only [batches, List.flatten_cons, List.flatten_nil, List.append_nil,
    List.length_append]
  omega

theorem length_ofPhase_le (planned : ofPhase profile inputs phase = .ok plan) :
    plan.batches.flatten.length ≤
      (competitors profile (profile.phaseInput phase)).length + 2 := by
  rcases ofPhase_eq_ok_iff.mp planned with ⟨target, others, manual, -, found, -, rfl⟩
  have onTarget : (forceOn target).toList.length ≤ 1 := Option.length_toList_le
  have cleared : (others.filterMap clear).length ≤ others.length :=
    List.length_filterMap_le _ _
  have onManual : (forceOn manual).toList.length ≤ 1 := Option.length_toList_le
  have all := length_of_lookupAll found
  simp only [batches, List.flatten_cons, List.flatten_nil, List.append_nil,
    List.length_append]
  omega

end Plan

section

variable {profile : Profile} {inputs : Inputs} {stage : Stage} {made : Plan}

theorem length_plan_le (phases : PhasesPlaced profile.stageInputs)
    (planned : plan profile inputs stage = .ok made) :
    made.batches.flatten.length ≤ 10 := by
  have few := phases.length_names_le
  by_cases reset : stage.number = 0
  · rw [plan_of_reset reset] at planned
    have bound := Plan.length_ofReset_le planned
    omega
  · rw [plan_of_phase reset] at planned
    have bound := Plan.length_ofPhase_le planned
    have fewer : (Plan.competitors profile (profile.phaseInput stage.number)).length ≤
        profile.stageInputs.names.length := List.length_filter_le _ _
    omega

theorem length_plan_le_of_configured (phases : PhasesPlaced profile.stageInputs)
    (planned : plan profile inputs stage = .ok made)
    (configured : stage.number = 0 ∨
      profile.phaseInput stage.number ∈ profile.stageInputs.names) :
    made.batches.flatten.length ≤ 9 := by
  have few := phases.length_names_le
  by_cases reset : stage.number = 0
  · rw [plan_of_reset reset] at planned
    have bound := Plan.length_ofReset_le planned
    omega
  · rw [plan_of_phase reset] at planned
    have bound := Plan.length_ofPhase_le planned
    have fewer := Plan.length_competitors_lt (configured.resolve_left reset)
    omega

end

/-! ## Requests -/

def Call.isFetch : Call → Bool
  | .fetch _ => true
  | .post _ _ _ => false

def Call.isPost (call : Call) : Bool :=
  !call.isFetch

def fetches (rounds : List Round) : Nat :=
  (rounds.flatMap Round.calls).countP Call.isFetch

def posts (rounds : List Round) : Nat :=
  (rounds.flatMap Round.calls).countP Call.isPost

section

variable {controller : Controller} {batch : Batch} {plan : Plan}
  {rounds first second : List Round} {round : Round}

theorem fetches_append : fetches (first ++ second) = fetches first + fetches second := by
  simp [fetches]

theorem posts_append : posts (first ++ second) = posts first + posts second := by
  simp [posts]

theorem requests_of_round (whole : round.calls = batch.map controller.commandCall) :
    fetches [round] = 0 ∧ posts [round] = batch.length := by
  have isPost : ∀ command, Call.isPost (controller.commandCall command) = true :=
    fun _ => rfl
  have notFetch : ∀ command, Call.isFetch (controller.commandCall command) = false :=
    fun _ => rfl
  simp [fetches, posts, whole, List.countP_map, Function.comp_def, isPost, notFetch]

theorem requests_of_poll (calls : round.calls = [controller.pageCall .inputs]) :
    fetches [round] = 1 ∧ posts [round] = 0 := by
  rw [fetches, posts, List.flatMap_singleton, calls]
  exact ⟨rfl, rfl⟩

theorem requests_of_rounds
    (whole : ∀ round ∈ rounds, round.calls = batch.map controller.commandCall) :
    fetches rounds = 0 ∧ posts rounds = rounds.length * batch.length := by
  induction rounds with
  | nil => exact ⟨rfl, (Nat.zero_mul _).symm⟩
  | cons round rest induction =>
      have here := requests_of_round (whole round List.mem_cons_self)
      have later := induction fun other member =>
        whole other (List.mem_cons_of_mem round member)
      rw [← List.singleton_append, fetches_append, posts_append, here.1, here.2, later.1,
        later.2, List.length_append, List.length_singleton, Nat.add_mul, Nat.one_mul]
      exact ⟨rfl, rfl⟩

theorem BatchRounds.length_le (sent : BatchRounds controller batch rounds) :
    rounds.length ≤ controller.retry.maxAttempts.toNat := by
  by_cases empty : batch = []
  · rw [BatchRounds, if_pos empty] at sent
    simp [sent]
  · exact ((BatchRounds.of_nonempty empty).mp sent).withinBudget

theorem BatchRounds.requests_le (sent : BatchRounds controller batch rounds) :
    fetches rounds = 0 ∧
      posts rounds ≤ controller.retry.maxAttempts.toNat * batch.length := by
  rcases requests_of_rounds sent.whole with ⟨noFetch, exactly⟩
  exact ⟨noFetch, exactly.trans_le (Nat.mul_le_mul_right _ sent.length_le)⟩

/-- Every command of a plan is posted at most once in each attempt. -/
theorem PlanRounds.requests_le (sent : PlanRounds controller plan rounds) :
    fetches rounds = 0 ∧
      posts rounds ≤
        controller.retry.maxAttempts.toNat * plan.batches.flatten.length := by
  rcases sent with ⟨firstRounds, secondRounds, rfl, first, second⟩
  have secondBound : fetches secondRounds = 0 ∧ posts secondRounds ≤
      controller.retry.maxAttempts.toNat * plan.second.length := by
    rcases second with ⟨-, second⟩ | ⟨-, rfl⟩
    · exact second.requests_le
    · exact ⟨rfl, Nat.zero_le _⟩
  have size : plan.batches.flatten.length = plan.first.length + plan.second.length := by
    simp [Plan.batches]
  rw [fetches_append, posts_append, size, Nat.mul_add]
  exact ⟨by rw [first.requests_le.1, secondBound.1],
    Nat.add_le_add first.requests_le.2 secondBound.2⟩

end

theorem StageRun.requests_le {controller : Controller} {requested : Int}
    {rounds : List Round} {result : Except StageError Stage}
    (run : StageRun controller requested rounds result) {most : Nat}
    (short : ∀ inputs stage made, plan controller.profile inputs stage = .ok made →
      made.batches.flatten.length ≤ most) :
    fetches rounds ≤ 1 ∧ posts rounds ≤ most * controller.retry.maxAttempts.toNat := by
  cases run with
  | outOfRange => exact ⟨Nat.zero_le _, Nat.zero_le _⟩
  | unavailable number calls unread =>
      rw [(requests_of_poll calls).1, (requests_of_poll calls).2]
      exact ⟨Nat.le_refl 1, Nat.zero_le _⟩
  | unplanned number calls reads unplanned =>
      rw [(requests_of_poll calls).1, (requests_of_poll calls).2]
      exact ⟨Nat.le_refl 1, Nat.zero_le _⟩
  | @planned stage poll made sent faults number calls leads batches =>
      rcases leads with ⟨inputs, -, planned⟩
      rcases batches.planRounds.requests_le with ⟨noFetch, bound⟩
      rw [← List.singleton_append, fetches_append, posts_append, (requests_of_poll calls).1,
        (requests_of_poll calls).2, noFetch, Nat.zero_add, Nat.mul_comm most]
      exact ⟨Nat.le_refl 1,
        bound.trans (Nat.mul_le_mul_left _ (short inputs stage made planned))⟩

/-- A plan for an accepted profile has two batches of at most ten commands in all, and
of at most nine for a reset or towards a configured phase input. So a stage change
makes at most one request for a page and ten posts for each attempt that its budget
allows, whatever the device answers. -/
theorem work_le {description : ProfileDescription} {profile : Profile}
    (accepted : Profile.ofDescription description = .ok profile) :
    (∀ inputs stage made, plan profile inputs stage = .ok made →
      made.batches.length = 2 ∧ made.batches.flatten.length ≤ 10 ∧
      (stage.number = 0 ∨
          profile.phaseInput stage.number ∈ profile.stageInputs.names →
        made.batches.flatten.length ≤ 9)) ∧
    ∀ {State : Type} (controller : Controller) (link : Link State) (requested : Int)
      (device : State), controller.profile = profile →
      fetches (controller.setStage link requested device).rounds ≤ 1 ∧
      posts (controller.setStage link requested device).rounds ≤
        10 * controller.retry.maxAttempts.toNat := by
  have phases := Profile.ofDescription_phasesPlaced accepted
  constructor
  · intro inputs stage made planned
    exact ⟨rfl, length_plan_le phases planned,
      length_plan_le_of_configured phases planned⟩
  · intro State controller link requested device ofProfile
    subst ofProfile
    apply (controller.setStage_run link requested device).requests_le
    intro inputs stage made planned
    exact length_plan_le phases planned

/-! ## A crowded junction

Every phase has an input that is active, and the target of phase 5 is none of them, so
that the plan has a command for each of ten inputs. The device refuses them all. -/

def crowdedStages : List String :=
  ["P1", "P2", "P3", "P4", "P5", "P6", "P7", "P8"]

def crowdedDescription : ProfileDescription where
  inputs := "M" :: "X5" :: crowdedStages
  stages := crowdedStages
  manual := "M"
  phasePrefix := "X"
  fieldPrefix := "R"
  credentials := ⟨"", ""⟩

def crowdedProfile : Profile where
  inputs := Profile.inputSet ("M" :: "X5" :: crowdedStages)
  stageInputs := NameTable.ofList
    [("P1", 1), ("P2", 2), ("P3", 3), ("P4", 4), ("P5", 5), ("P6", 6), ("P7", 7), ("P8", 8)]
  manual := "M"
  phasePrefix := "X"
  fieldPrefix := "R"
  credentials := ⟨"", ""⟩

def crowdedInputs : Inputs :=
  NameTable.ofList (("M" :: "X5" :: crowdedStages).zipIdx.map fun row =>
    (row.1, .shown (UInt32.ofNat row.2) row.1 .active .flashing))

def crowdedController : Controller where
  address := "crowded"
  profile := crowdedProfile
  parsers := { main := fun _ => .ok (.inputs crowdedInputs)
               inputs := fun _ => .ok (.inputs crowdedInputs) }
  retry := .attempts 2

def crowdedStage : Stage := { number := 5 }

def refusingLink : Link Unit where
  exchange := fun _ _ => (.inOrder (Vector.replicate _ (.response Http.ok (.ok ""))), ())

/-- The nine commands of the first batch are posted twice, and the second batch is not
sent. -/
theorem crowded_work_le :
    ∃ made, plan crowdedProfile crowdedInputs crowdedStage = .ok made ∧
      made.batches.length = 2 ∧ made.batches.flatten.length = 10 ∧
      posts (crowdedController.setStage refusingLink crowdedStage.number ()).rounds = 18 ∧
      posts (crowdedController.setStage refusingLink crowdedStage.number ()).rounds ≤ 20 := by
  have accepted : Profile.ofDescription crowdedDescription = .ok crowdedProfile := rfl
  rcases work_le accepted with ⟨plans, changes⟩
  have planned : plan crowdedProfile crowdedInputs crowdedStage =
      .ok { first := ⟨"X5", 1, .on⟩ :: crowdedStages.zipIdx.map fun row =>
              ⟨row.1, UInt32.ofNat row.2 + 2, .off⟩
            second := [⟨"M", 0, .on⟩] } := rfl
  exact ⟨_, planned, (plans _ _ _ planned).1, rfl, by decide +kernel,
    (changes crowdedController refusingLink crowdedStage.number () rfl).2⟩

end SignalControl
