import SignalControl.Proofs.CommandedInputs
import SignalControl.Proofs.MissingInput
import SignalControl.Proofs.ReachedStage

namespace SignalControl

/-! What resets make of the inputs. A reset applies the release rule to the override and
to every phase input. That is not the same as applying it twice, for an input that is
released from being forced on flashes, and may be switched off by the next reset. But
no input takes more than two steps, and so two resets leave nothing to do. -/

/-! ## The release rule -/

namespace InputRecord

variable {record : InputRecord} {mode : Actuator.Mode}

def IsActiveFlashing (record : InputRecord) : Prop :=
  record.state = .active ∧ record.mode = .flashing

def IsHeld (record : InputRecord) : Prop :=
  record.state = .active ∧ record.mode = .on ∨
    record.state = .idle ∧ record.mode = .off

theorem releaseMode_eq_off_iff :
    Plan.releaseMode record = some .off ↔ record.IsActiveFlashing := by
  rw [Plan.releaseMode, IsActiveFlashing]
  cases record.state <;> cases record.mode <;> decide

theorem releaseMode_eq_flashing_iff :
    Plan.releaseMode record = some .flashing ↔ record.IsHeld := by
  rw [Plan.releaseMode, IsHeld]
  cases record.state <;> cases record.mode <;> decide

theorem releaseMode_ne_on : Plan.releaseMode record ≠ some .on := by
  rw [Plan.releaseMode]
  cases record.state <;> cases record.mode <;> decide

theorem releaseMode_eq_none_iff :
    Plan.releaseMode record = none ↔ ¬ record.IsActiveFlashing ∧ ¬ record.IsHeld := by
  rw [← releaseMode_eq_off_iff, ← releaseMode_eq_flashing_iff]
  cases released : Plan.releaseMode record with
  | none => simp
  | some mode =>
      cases mode with
      | flashing => simp
      | off => simp
      | on => exact absurd released releaseMode_ne_on

def released (record : InputRecord) : InputRecord :=
  record.answered .actuator (Plan.release record)

theorem released_of_some (change : Plan.releaseMode record = some mode) :
    record.released = { record with actuator := .label mode } := by
  rw [released, Plan.release, change]
  rfl

theorem released_of_none (kept : Plan.releaseMode record = none) :
    record.released = record := by
  rw [released, Plan.release, kept]
  rfl

/-- A held input comes to flash, and an active flashing one to be off. There the rule
ends. -/
theorem releaseMode_released_released (record : InputRecord) :
    Plan.releaseMode record.released.released = none := by
  rcases record with ⟨index, number, name, state, stateTime, mode | mode⟩ <;>
    cases state <;> cases mode <;> rfl

end InputRecord

/-! ## Batches in name order -/

def Batch.InNameOrder (batch : Batch) (inputs : Inputs) (names : List String) : Prop :=
  ∃ commanded : List String, commanded ⊆ names ∧
    (commanded.Pairwise fun earlier later => earlier < later) ∧
    List.Forall₂
      (fun name command => ∃ record mode, inputs.get? name = some record ∧
        command = record.command mode)
      commanded batch

theorem Batch.Sets.inNameOrder {batch : Batch} {inputs : Inputs}
    {commanded names : List String} (sets : batch.Sets inputs commanded)
    (among : commanded.Sublist names)
    (ascending : names.Pairwise fun earlier later => earlier < later) :
    batch.InNameOrder inputs names :=
  ⟨commanded, among.subset, ascending.sublist among, sets⟩

/-! ## One reset -/

def Profile.releasable (profile : Profile) : List String :=
  profile.manual :: profile.stageInputs.names

/-- Of the override and the phase inputs, the active flashing ones are off and the held
ones flash. No other input has changed. -/
structure ReleaseSettled (profile : Profile) (before after : Inputs) : Prop where
  switchedOff : ∀ name ∈ profile.releasable, ∀ record, before.get? name = some record →
    record.IsActiveFlashing →
    after.get? name = some { record with actuator := .label .off }
  returned : ∀ name ∈ profile.releasable, ∀ record, before.get? name = some record →
    record.IsHeld →
    after.get? name = some { record with actuator := .label .flashing }
  others : ∀ name, (name ∈ profile.releasable → ∀ record,
      before.get? name = some record → ¬ record.IsActiveFlashing ∧ ¬ record.IsHeld) →
    after.get? name = before.get? name

/-- The batches of the plan were carried out one after the other, and the commands of
each in any order. -/
def CarriedOut (profile : Profile) (made : Plan) (before after : Inputs) : Prop :=
  ∃ first second : Batch, first.Perm made.first ∧ second.Perm made.second ∧
    after = (before.posted .actuator profile.fieldPrefix first).posted .actuator
      profile.fieldPrefix second

def ReleasedFrom (profile : Profile) (before after : Inputs) : Prop :=
  ∀ name, after.get? name = (before.get? name).map fun record =>
    if name ∈ profile.releasable then record.released else record

def Plan.releaseChoice? (profile : Profile) (name : String) (record : InputRecord) :
    Option Command :=
  if name ∈ profile.releasable then release record else none

theorem Inputs.posted_append (reaction : Reaction) (fieldPrefix : String)
    (inputs : Inputs) (first second : Batch) :
    inputs.posted reaction fieldPrefix (first ++ second) =
      (inputs.posted reaction fieldPrefix first).posted reaction fieldPrefix second := by
  simp only [posted, afterSettings, List.map_append, List.filterMap_append,
    List.foldl_append]

section

variable {profile : Profile} {inputs once twice : Inputs} {made : Plan}

theorem Plan.reset_chooses (planned : plan profile inputs Stage.reset = .ok made) :
    (made.first ++ made.second : Batch).Chooses inputs (releaseChoice? profile) := by
  have reset : Stage.reset.number = 0 := rfl
  have first := overrideBatch_chooses planned
  have second := phaseBatch_chooses planned
  rw [overrideBatch, if_pos reset] at first
  rw [phaseBatch, if_pos reset] at second
  apply first.append second
  intro name record command
  rw [releaseChoice?, overrideChoice?, phaseChoice?, overrideCommand?, phaseCommand?,
    Profile.phaseNames, Profile.releasable, if_pos reset, if_pos reset, if_pos reset]
  simp only [Option.ite_none_right_eq_some, List.mem_cons, or_and_right]

theorem Plan.reset_inNameOrder (planned : plan profile inputs Stage.reset = .ok made) :
    made.first.InNameOrder inputs [profile.manual] ∧
      made.second.InNameOrder inputs profile.stageInputs.names := by
  rw [plan_of_reset rfl] at planned
  rcases ofReset_eq_ok_iff.mp planned with ⟨manual, phases, found, foundPhases, rfl⟩
  rcases Batch.sets_toList commandsOwn_release found with ⟨override, ofManual, sets⟩
  rcases Batch.sets_filterMap commandsOwn_release foundPhases with
    ⟨released, ofPhases, setsPhases⟩
  exact ⟨sets.inNameOrder ofManual (List.pairwise_singleton _ _),
    setsPhases.inNameOrder ofPhases profile.stageInputs.names_ascending⟩

theorem CarriedOut.distinctRows (carriedOut : CarriedOut profile made inputs once)
    (distinct : DistinctRows inputs inputs.names) : DistinctRows once once.names := by
  rcases carriedOut with ⟨first, second, -, -, rfl⟩
  exact Inputs.distinctRows_posted .actuator
    (Inputs.distinctRows_posted .actuator distinct profile.fieldPrefix first)
    profile.fieldPrefix second

theorem CarriedOut.releasedFrom (carriedOut : CarriedOut profile made inputs once)
    (distinct : DistinctRows inputs inputs.names)
    (planned : plan profile inputs Stage.reset = .ok made) :
    ReleasedFrom profile inputs once := by
  rcases carriedOut with ⟨first, second, firstOrder, secondOrder, rfl⟩
  intro name
  rw [← Inputs.posted_append, (Plan.reset_chooses planned).get?_posted .actuator distinct
    (firstOrder.append secondOrder)]
  congr 1
  funext record
  rw [Plan.releaseChoice?]
  split
  next => rfl
  next => rfl

theorem ReleasedFrom.releaseSettled (released : ReleasedFrom profile inputs once) :
    ReleaseSettled profile inputs once where
  switchedOff := by
    intro name isReleasable record found flashing
    rw [released name, found, Option.map_some, if_pos isReleasable,
      InputRecord.released_of_some (InputRecord.releaseMode_eq_off_iff.mpr flashing)]
  returned := by
    intro name isReleasable record found held
    rw [released name, found, Option.map_some, if_pos isReleasable,
      InputRecord.released_of_some (InputRecord.releaseMode_eq_flashing_iff.mpr held)]
  others := by
    intro name settled
    rw [released name]
    cases found : inputs.get? name with
    | none => rfl
    | some record =>
        rw [Option.map_some]
        split
        next isReleasable =>
          rw [InputRecord.released_of_none
            (InputRecord.releaseMode_eq_none_iff.mpr (settled isReleasable record found))]
        next => rfl

/-! ## Two resets -/

theorem ReleasedFrom.exists_plan (released : ReleasedFrom profile inputs once)
    (planned : plan profile inputs Stage.reset = .ok made) :
    ∃ again, plan profile once Stage.reset = .ok again := by
  have present := exists_plan_iff.mp ⟨made, planned⟩
  apply exists_plan_iff.mpr
  intro name isSought
  rw [NameTable.contains, released name, Option.isSome_map]
  exact present name isSought

theorem ReleasedFrom.nothing_left (first : ReleasedFrom profile inputs once)
    (second : ReleasedFrom profile once twice)
    (planned : plan profile twice Stage.reset = .ok made) : made = .nothing := by
  have empty : made.first ++ made.second = [] := by
    apply (Plan.reset_chooses planned).eq_nil_iff.mpr
    intro name record found
    rw [second name, first name] at found
    rw [Plan.releaseChoice?]
    split
    next isReleasable =>
      cases before : inputs.get? name with
      | none => simp [before] at found
      | some original =>
          simp only [before, Option.map_some, if_pos isReleasable, Option.some.injEq]
            at found
          rw [← found, Plan.release, original.releaseMode_released_released,
            Option.map_none]
    next => rfl
  rcases List.append_eq_nil_iff.mp empty with ⟨noFirst, noSecond⟩
  cases made
  rw [Plan.nothing, Plan.mk.injEq]
  exact ⟨noFirst, noSecond⟩

/-- The effect of a reset. Its first batch sets the override at most and its second one
phase inputs, each once and in name order, and none is forced on. Carrying them out, in
any order, settles the release of each input and leaves the others alone. A second
reset can be planned then, and after that one a third has nothing to do. It does not
matter whether the override is a phase input. -/
theorem plan_reset_effect (distinct : DistinctRows inputs inputs.names)
    (planned : plan profile inputs Stage.reset = .ok made) :
    made.first.InNameOrder inputs [profile.manual] ∧
    made.second.InNameOrder inputs profile.stageInputs.names ∧
    (∀ command ∈ made.first ++ made.second, command.mode ≠ .on) ∧
    (∀ once, CarriedOut profile made inputs once →
      ReleaseSettled profile inputs once) ∧
    ∀ once, CarriedOut profile made inputs once →
      ∃ again, plan profile once Stage.reset = .ok again ∧
        ∀ twice, CarriedOut profile again once twice →
          plan profile twice Stage.reset = .ok .nothing := by
  have chooses := Plan.reset_chooses planned
  rcases Plan.reset_inNameOrder planned with ⟨ofOverride, ofPhases⟩
  refine ⟨ofOverride, ofPhases, ?_, ?_, ?_⟩
  · intro command member forced
    rcases (chooses.mem_iff command).mp member with ⟨name, record, -, chosen⟩
    rw [Plan.releaseChoice?, Option.ite_none_right_eq_some] at chosen
    rcases Plan.release_eq_some_iff.mp chosen.2 with ⟨mode, change, rfl⟩
    have isOn : mode = .on := forced
    rw [isOn] at change
    exact InputRecord.releaseMode_ne_on change
  · intro once carriedOut
    exact (carriedOut.releasedFrom distinct planned).releaseSettled
  · intro once carriedOut
    have first := carriedOut.releasedFrom distinct planned
    rcases first.exists_plan planned with ⟨again, plannedAgain⟩
    refine ⟨again, plannedAgain, ?_⟩
    intro twice carriedOutAgain
    have second := carriedOutAgain.releasedFrom (carriedOut.distinctRows distinct)
      plannedAgain
    rcases second.exists_plan plannedAgain with ⟨third, plannedThird⟩
    rw [plannedThird, first.nothing_left second plannedThird]

end

/-! ## An override that takes two resets

The override is held on, one phase input is active and the other one held off. A fourth
input is none of the profile's. -/

def twoResetInputs : Inputs :=
  NameTable.ofList
    [("M", .shown 0 "M" .active .on), ("P3", .shown 1 "P3" .active .flashing),
      ("P4", .shown 2 "P4" .idle .off), ("Q", .shown 3 "Q" .active .on)]

def onceReset : Inputs :=
  (twoResetInputs.posted .actuator "R" [⟨"M", 0, .flashing⟩]).posted .actuator "R"
    [⟨"P4", 2, .flashing⟩, ⟨"P3", 1, .off⟩]

theorem pair_plan_reset_effect :
    ∃ made again twice,
      plan (pairProfile "M") twoResetInputs Stage.reset = .ok made ∧
      made.first = [⟨"M", 0, .flashing⟩] ∧
      made.second = [⟨"P3", 1, .off⟩, ⟨"P4", 2, .flashing⟩] ∧
      ReleaseSettled (pairProfile "M") twoResetInputs onceReset ∧
      plan (pairProfile "M") onceReset Stage.reset = .ok again ∧
      again.first = [⟨"M", 0, .off⟩] ∧
      CarriedOut (pairProfile "M") again onceReset twice ∧
      plan (pairProfile "M") twice Stage.reset = .ok .nothing := by
  have planned : plan (pairProfile "M") twoResetInputs Stage.reset =
      .ok { first := [⟨"M", 0, .flashing⟩]
            second := [⟨"P3", 1, .off⟩, ⟨"P4", 2, .flashing⟩] } := rfl
  have plannedAgain : plan (pairProfile "M") onceReset Stage.reset =
      .ok { first := [⟨"M", 0, .off⟩], second := [] } := by decide +kernel
  rcases plan_reset_effect (distinctRows_of_entries (by decide) _) planned with
    ⟨-, -, -, settles, ends⟩
  have carriedOut : CarriedOut (pairProfile "M")
      { first := [⟨"M", 0, .flashing⟩]
        second := [⟨"P3", 1, .off⟩, ⟨"P4", 2, .flashing⟩] } twoResetInputs onceReset :=
    ⟨_, _, List.Perm.refl _, List.Perm.swap _ _ [], rfl⟩
  rcases ends onceReset carriedOut with ⟨again, plannedOnce, nothing⟩
  rw [plannedAgain, Except.ok.injEq] at plannedOnce
  have carriedOutAgain : CarriedOut (pairProfile "M") again onceReset _ :=
    ⟨_, _, List.Perm.refl _, List.Perm.refl _, rfl⟩
  exact ⟨_, again, _, planned, rfl, rfl, settles onceReset carriedOut,
    plannedOnce ▸ plannedAgain, plannedOnce ▸ rfl, carriedOutAgain,
    nothing _ carriedOutAgain⟩

end SignalControl
