import SignalControl.Proofs.ProfileAcceptance

namespace SignalControl

/-! What a description must be like to make a profile, and the profile that it makes.
Neither depends on the order in which inputs and phase inputs are listed, or on how
often an input is. -/

namespace ProfileDescription

/-- The override and the phase inputs are listed inputs, and each phase input ends in the
number of a phase of its own. -/
structure WellFormed (description : ProfileDescription) : Prop where
  manual : description.manual ∈ description.inputs
  known : ∀ name ∈ description.stages, name ∈ description.inputs
  numbered : ∀ name ∈ description.stages,
    ∃ phase, EndsIn name phase ∧ 1 ≤ phase ∧ phase ≤ 8
  distinct : description.stages.Pairwise fun earlier later =>
    ∀ phase, EndsIn earlier phase → ¬ EndsIn later phase

/-- The profile has what the description lists. The phase of a phase input is the number
that its name ends in. -/
structure Describes (description : ProfileDescription) (profile : Profile) : Prop where
  inputs : ∀ name, profile.inputs.contains name = true ↔ name ∈ description.inputs
  stageInputs : ∀ name phase, profile.stageInputs.get? name = some phase ↔
    name ∈ description.stages ∧ EndsIn name phase
  manual : profile.manual = description.manual
  phasePrefix : profile.phasePrefix = description.phasePrefix
  fieldPrefix : profile.fieldPrefix = description.fieldPrefix
  credentials : profile.credentials = description.credentials

end ProfileDescription

namespace Profile

variable {description : ProfileDescription} {profile : Profile} {name : String}
  {names others : List String}

theorem contains_inputSet_iff : (inputSet names).contains name = true ↔ name ∈ names := by
  rw [NameTable.contains, inputSet, NameTable.get?_ofList_map]
  split
  next member => simp [member]
  next absent => simp [absent]

theorem inputSet_eq_of_mem_iff (same : ∀ name, name ∈ names ↔ name ∈ others) :
    inputSet names = inputSet others := by
  apply NameTable.ext_get?
  intro name
  simp only [inputSet, NameTable.get?_ofList_map, same]

/-! ## Accepted descriptions -/

theorem placeable_iff_wellFormed :
    (inputSet description.inputs).contains description.manual = true ∧
        Placeable (inputSet description.inputs) .empty description.stages ↔
      description.WellFormed := by
  constructor
  · rintro ⟨manual, placeable⟩
    constructor
    case manual => exact contains_inputSet_iff.mp manual
    case known =>
      exact fun name member => contains_inputSet_iff.mp (placeable.known name member)
    case numbered =>
      intro name member
      rcases placeable.numbered name member with ⟨phase, numbered⟩
      exact ⟨phase, phaseNumber_eq_ok_iff_endsIn.mp numbered⟩
    case distinct =>
      apply placeable.distinct.imp_of_mem
      intro earlier later isEarlier isLater
      rcases placeable.numbered earlier isEarlier with ⟨phase, numbered⟩
      exact (phaseNumber_ne_iff numbered).mp
  · intro wellFormed
    refine ⟨contains_inputSet_iff.mpr wellFormed.manual, ?_⟩
    constructor
    case known =>
      exact fun name member => contains_inputSet_iff.mpr (wellFormed.known name member)
    case numbered =>
      intro name member
      rcases wellFormed.numbered name member with ⟨phase, inRange⟩
      exact ⟨phase, phaseNumber_eq_ok_iff_endsIn.mpr inRange⟩
    case free =>
      intro name member other phase found
      cases found
    case distinct =>
      apply wellFormed.distinct.imp_of_mem
      intro earlier later isEarlier isLater
      rcases wellFormed.numbered earlier isEarlier with ⟨phase, inRange⟩
      exact (phaseNumber_ne_iff (phaseNumber_eq_ok_iff_endsIn.mpr inRange)).mpr

theorem Placeable.exists_table {known : NameTable Unit}
    (placeable : Placeable known .empty names) :
    ∃ table, placeStages known .empty names = .ok table := by
  let phaseOf (name : String) : Nat := (phaseNumber name).toOption.getD 0
  refine ⟨.ofList (names.map fun name => (name, phaseOf name)), ?_⟩
  refine (placeStages_eq_ok_iff phasesPlaced_empty).mpr ⟨placeable, ?_⟩
  intro name
  rw [NameTable.get?_ofList_map, NameTable.get?_empty]
  by_cases member : name ∈ names
  · rcases placeable.numbered name member with ⟨phase, numbered⟩
    simp [member, phaseOf, numbered, Except.toOption]
  · rw [if_neg member, if_neg member]

theorem exists_profile_iff :
    (∃ profile, ofDescription description = .ok profile) ↔ description.WellFormed := by
  rw [← placeable_iff_wellFormed]
  constructor
  · rintro ⟨profile, accepted⟩
    rcases ofDescription_eq_ok_iff.mp accepted with ⟨manual, stageInputs, placed, -⟩
    exact ⟨manual, ((placeStages_eq_ok_iff phasesPlaced_empty).mp placed).1⟩
  · rintro ⟨manual, placeable⟩
    rcases placeable.exists_table with ⟨table, placed⟩
    exact ⟨_, ofDescription_eq_ok_iff.mpr ⟨manual, table, placed, rfl⟩⟩

theorem describes_of_accepted (accepted : ofDescription description = .ok profile) :
    description.Describes profile := by
  rcases ofDescription_eq_ok_iff.mp accepted with ⟨-, stageInputs, placed, rfl⟩
  rcases (placeStages_eq_ok_iff phasesPlaced_empty).mp placed with ⟨placeable, lookups⟩
  refine ⟨fun _ => contains_inputSet_iff, ?_, rfl, rfl, rfl, rfl⟩
  intro name phase
  rw [lookups]
  by_cases isStage : name ∈ description.stages
  · rcases placeable.numbered name isStage with ⟨number, numbered⟩
    have ends := (phaseNumber_eq_ok_iff_endsIn.mp numbered).1
    rw [if_pos isStage, numbered, Except.toOption, Option.some.injEq, and_iff_right isStage]
    constructor
    · rintro rfl
      exact ends
    · exact ends.unique
  · simp [isStage]

theorem size_stageInputs (accepted : ofDescription description = .ok profile) :
    profile.stageInputs.size = description.stages.length := by
  have describes := describes_of_accepted accepted
  have wellFormed := exists_profile_iff.mp ⟨profile, accepted⟩
  have once : description.stages.Nodup := by
    apply wellFormed.distinct.imp_of_mem
    rintro name other isStage - different rfl
    rcases wellFormed.numbered name isStage with ⟨phase, ends, -⟩
    exact different phase ends ends
  have same : ∀ name, name ∈ profile.stageInputs.names ↔ name ∈ description.stages := by
    intro name
    rw [NameTable.mem_names_iff]
    constructor
    · rintro ⟨phase, found⟩
      exact ((describes.stageInputs name phase).mp found).1
    · intro isStage
      rcases wellFormed.numbered name isStage with ⟨phase, ends, -⟩
      exact ⟨phase, (describes.stageInputs name phase).mpr ⟨isStage, ends⟩⟩
  rw [← NameTable.length_names]
  exact ((List.perm_ext_iff_of_nodup profile.stageInputs.names_nodup once).mpr
    same).length_eq

/-- The same inputs make the same profile, or fail for the same reason. -/
theorem ofDescription_of_mem_iff {inputs : List String}
    (same : ∀ name, name ∈ inputs ↔ name ∈ description.inputs) :
    ofDescription { description with inputs := inputs } = ofDescription description := by
  simp only [ofDescription, inputSet_eq_of_mem_iff same]

/-- A description makes a profile exactly if it is well-formed, and then the one that it
describes. The profile has as many phase inputs as are listed, at most eight, and no two
of one phase. Reordering or repeating inputs changes nothing, not even why a description
is refused, and reordering phase inputs changes neither whether it is accepted nor the
profile. -/
theorem ofDescription_accepts (description : ProfileDescription) :
    ((∃ profile, ofDescription description = .ok profile) ↔ description.WellFormed) ∧
    (∀ profile, ofDescription description = .ok profile →
      description.Describes profile ∧
      profile.stageInputs.size = description.stages.length ∧
      description.stages.length ≤ 8 ∧
      ∀ left right phase, profile.stageInputs.get? left = some phase →
        profile.stageInputs.get? right = some phase → left = right) ∧
    (∀ inputs : List String, (∀ name, name ∈ inputs ↔ name ∈ description.inputs) →
      ofDescription { description with inputs := inputs } = ofDescription description) ∧
    ∀ stages, stages.Perm description.stages → ∀ profile,
      ofDescription { description with stages := stages } = .ok profile ↔
        ofDescription description = .ok profile := by
  refine ⟨exists_profile_iff, ?_, ?_, ?_⟩
  · intro profile accepted
    have phases := ofDescription_phasesPlaced accepted
    have size := size_stageInputs accepted
    have few := phases.length_names_le
    rw [NameTable.length_names, size] at few
    exact ⟨describes_of_accepted accepted, size, few, phases.distinct⟩
  · intro inputs same
    exact ofDescription_of_mem_iff same
  · intro stages reordered profile
    constructor
    · intro accepted
      exact ofDescription_of_perm accepted reordered.symm
    · intro accepted
      exact ofDescription_of_perm accepted reordered

/-! ## Numbers behind other digits

One phase input has a padded number. The other one has a digit that is not ASCII right
before its number, and that is not part of it. -/

def scriptsDescription : ProfileDescription where
  inputs := ["M", "ФАЗА007", "x٣2"]
  stages := ["ФАЗА007", "x٣2"]
  manual := "M"
  phasePrefix := "ФАЗА"
  fieldPrefix := "R"
  credentials := ⟨"", ""⟩

def scriptsProfile : Profile where
  inputs := inputSet ["M", "ФАЗА007", "x٣2"]
  stageInputs := NameTable.ofList [("ФАЗА007", 7), ("x٣2", 2)]
  manual := "M"
  phasePrefix := "ФАЗА"
  fieldPrefix := "R"
  credentials := ⟨"", ""⟩

theorem scripts_ofDescription_accepts :
    scriptsDescription.WellFormed ∧
      scriptsDescription.Describes scriptsProfile ∧
      scriptsProfile.stageInputs.size = 2 ∧
      ofDescription { scriptsDescription with stages := ["x٣2", "ФАЗА007"] } =
        .ok scriptsProfile ∧
      ofDescription { scriptsDescription with inputs := ["x٣2", "M", "ФАЗА007", "M"] } =
        .ok scriptsProfile := by
  have accepted : ofDescription scriptsDescription = .ok scriptsProfile := rfl
  rcases ofDescription_accepts scriptsDescription with
    ⟨acceptable, described, sameInputs, sameStages⟩
  rcases described scriptsProfile accepted with ⟨describes, size, -, -⟩
  refine ⟨acceptable.mp ⟨_, accepted⟩, describes, size, ?_, ?_⟩
  · exact (sameStages _ (List.Perm.swap _ _ _) _).mpr accepted
  · rw [sameInputs, accepted]
    intro name
    simp only [scriptsDescription, List.mem_cons, List.not_mem_nil, or_false]
    tauto

end Profile

end SignalControl
