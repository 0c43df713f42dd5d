import SignalControl.Proofs.PhaseNumber
import SignalControl.Proofs.PlanCommands

namespace SignalControl

/-! Two things name the input of a phase. A plan makes the name from the phase
prefix, while the profile reads the phase off the name of each phase input. They
agree exactly if the name that is made is the name of a phase input. -/

/-- The plan settles on the phase input that has the phase. Its first batch forces
that input on, unless it is forced on already, and no other; and no command
switches it off. -/
structure SettlesPhase (profile : Profile) (inputs : Inputs) (plan : Plan)
    (phase : Nat) : Prop where
  target : ∃ name record, profile.stageInputs.get? name = some phase ∧
    inputs.get? name = some record ∧
    plan.first.filter (fun command => command.mode == .on) =
      if record.isForcedOn then [] else [record.command .on]
  kept : ∀ command ∈ plan.first ++ plan.second, command.mode = .off →
    profile.stageInputs.get? command.input ≠ some phase

namespace Plan

variable {profile : Profile} {inputs : Inputs} {plan : Plan} {stage : Stage}
  {name : String}

theorem toList_forceOn (record : InputRecord) :
    (forceOn record).toList =
      if record.isForcedOn then [] else [record.command .on] := by
  rw [forceOn]
  cases record.isForcedOn <;> rfl

theorem get?_phaseInput (phases : PhasesPlaced profile.stageInputs)
    (configured : profile.stageInputs.contains (profile.phaseInput stage.number) = true) :
    profile.stageInputs.get? (profile.phaseInput stage.number) =
      some stage.number := by
  rcases NameTable.contains_iff.mp configured with ⟨phase, found⟩
  have numbered := phases.numbered _ _ found
  rw [found, Profile.eq_of_phaseNumber_phaseInput numbered]

theorem settlesPhase_of_configured (phases : PhasesPlaced profile.stageInputs)
    (keyed : KeyedByName inputs)
    (planned : ofPhase profile inputs stage.number = .ok plan)
    (configured : profile.stageInputs.contains (profile.phaseInput stage.number) = true) :
    SettlesPhase profile inputs plan stage.number where
  target := by
    rcases exists_of_ofPhase planned (.inl rfl) with ⟨target, found⟩
    refine ⟨_, target, get?_phaseInput phases configured, found, ?_⟩
    rw [first_filter_on_of_ofPhase planned found, toList_forceOn]
  kept := by
    intro command member isOff sharesPhase
    rcases off_of_ofPhase planned member isOff with
      ⟨name, isStage, different, record, found, rfl⟩
    have sameName : (record.command .off).input = name := keyed name record found
    rw [sameName] at sharesPhase
    have placed := get?_phaseInput phases configured
    exact different (phases.distinct _ _ _ sharesPhase placed)

theorem configured_of_settlesPhase (keyed : KeyedByName inputs)
    (planned : ofPhase profile inputs stage.number = .ok plan)
    (settles : SettlesPhase profile inputs plan stage.number) :
    profile.stageInputs.contains (profile.phaseInput stage.number) = true := by
  rcases settles.target with ⟨name, record, hasPhase, found, forcedOn⟩
  have sameName : record.name = name := keyed name record found
  by_cases equal : name = profile.phaseInput stage.number
  · rw [← equal]
    exact NameTable.contains_iff.mpr ⟨_, hasPhase⟩
  exfalso
  have isStage : name ∈ profile.stageInputs.names :=
    NameTable.mem_names_iff.mpr ⟨_, hasPhase⟩
  cases forced : record.isForcedOn with
  | true =>
      -- The phase input counts as settled, but the plan takes it for a competitor.
      have cleared := off_mem_first planned isStage equal found forced
      apply settles.kept _ (List.mem_append_left _ cleared) rfl
      rw [← hasPhase, ← sameName]
      rfl
  | false =>
      rcases exists_of_ofPhase planned (.inl rfl) with ⟨target, foundTarget⟩
      rw [first_filter_on_of_ofPhase planned foundTarget, toList_forceOn, forced]
        at forcedOn
      split at forcedOn
      next => cases forcedOn
      next =>
        have sameCommand := (List.cons.inj forcedOn).1
        have sameInput : target.name = record.name :=
          congrArg Command.input sameCommand
        rw [keyed _ _ foundTarget, sameName] at sameInput
        exact equal sameInput.symm

end Plan

/-- The plan of an accepted profile settles on the input that has the phase of the
stage exactly if the name made from the phase prefix is that of a phase input. -/
theorem settlesPhase_iff_configured {description : ProfileDescription}
    {profile : Profile} (accepted : Profile.ofDescription description = .ok profile)
    {inputs : Inputs} (keyed : KeyedByName inputs) {stage : Stage}
    (phase : stage.number ≠ 0) {made : Plan}
    (planned : plan profile inputs stage = .ok made) :
    SettlesPhase profile inputs made stage.number ↔
      profile.stageInputs.contains (profile.phaseInput stage.number) = true := by
  rw [plan_of_phase phase] at planned
  constructor
  · exact Plan.configured_of_settlesPhase keyed planned
  · exact Plan.settlesPhase_of_configured
      (Profile.ofDescription_phasesPlaced accepted) keyed planned

/-! ## A phase number with a leading zero

The inputs `PH01` and `PH1` end in the same phase number, and either may be the
phase input of an accepted profile. The name that is made for phase 1 is `PH1`. -/

def paddedDescription (stage : String) : ProfileDescription where
  inputs := ["M", "PH01", "PH1"]
  stages := [stage]
  manual := "M"
  phasePrefix := "PH"
  fieldPrefix := "F"
  credentials := ⟨"", ""⟩

def paddedProfile (stage : String) : Profile where
  inputs := Profile.inputSet ["M", "PH01", "PH1"]
  stageInputs := NameTable.empty.insert stage 1
  manual := "M"
  phasePrefix := "PH"
  fieldPrefix := "F"
  credentials := ⟨"", ""⟩

def paddedRecord (index : UInt32) (name : String) (state : InputState) :
    InputRecord where
  index := index
  number := index + 1
  name := name
  state := state
  stateTime := "0"
  actuator := .label .flashing

def paddedInputs : Inputs :=
  NameTable.ofList
    [("M", paddedRecord 0 "M" .idle), ("PH01", paddedRecord 1 "PH01" .active),
      ("PH1", paddedRecord 2 "PH1" .idle)]

theorem paddedInputs_keyedByName : KeyedByName paddedInputs :=
  keyedByName_of_entries (by decide)

/-- Where `PH1` is the phase input, the plan for phase 1 settles on it. -/
theorem settlesPhase_unpadded :
    SettlesPhase (paddedProfile "PH1") paddedInputs
      { first := [⟨"PH1", 2, .on⟩], second := [⟨"M", 0, .on⟩] } 1 := by
  have accepted : Profile.ofDescription (paddedDescription "PH1") =
      .ok (paddedProfile "PH1") := rfl
  have planned : plan (paddedProfile "PH1") paddedInputs { number := 1 } =
      .ok { first := [⟨"PH1", 2, .on⟩], second := [⟨"M", 0, .on⟩] } := rfl
  have configured : (paddedProfile "PH1").stageInputs.contains
      ((paddedProfile "PH1").phaseInput 1) = true := rfl
  exact (settlesPhase_iff_configured accepted paddedInputs_keyedByName (by decide)
    planned).mpr configured

/-- Where `PH01` is the phase input, the plan for phase 1 forces `PH1` on and
switches off the input that has the phase. -/
theorem not_settlesPhase_padded :
    ∃ made, Profile.ofDescription (paddedDescription "PH01") =
        .ok (paddedProfile "PH01") ∧
      KeyedByName paddedInputs ∧
      plan (paddedProfile "PH01") paddedInputs { number := 1 } = .ok made ∧
      ¬ SettlesPhase (paddedProfile "PH01") paddedInputs made 1 := by
  refine ⟨{ first := [⟨"PH1", 2, .on⟩, ⟨"PH01", 1, .off⟩], second := [⟨"M", 0, .on⟩] },
    rfl, paddedInputs_keyedByName, rfl, ?_⟩
  intro settles
  exact settles.kept ⟨"PH01", 1, .off⟩ (by simp) rfl rfl

end SignalControl
