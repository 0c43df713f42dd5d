import SignalControl.Proofs.FormEffect

namespace SignalControl

/-! What a plan towards a phase makes of the inputs, and which of them it leaves
alone. The forms of a batch may be carried out in any order. -/

/-! ## The wanted effect -/

def ForcedOn (before after : Inputs) (name : String) : Prop :=
  ∃ record token, before.get? name = some record ∧ token.mode = .on ∧
    after.get? name = some { record with actuator := token }

/-- The target is forced on, and every other phase input that was active or forced on
is forced off. No other input has changed, and so neither has the override. -/
structure PhaseSettled (profile : Profile) (phase : Nat)
    (before after : Inputs) : Prop where
  target : ForcedOn before after (profile.phaseInput phase)
  cleared : ∀ name ∈ profile.stageInputs.names, name ≠ profile.phaseInput phase →
    ∀ record, before.get? name = some record →
      record.state ≠ .idle ∨ record.isForcedOn = true →
      after.get? name = some { record with actuator := .label .off }
  override : after.get? profile.manual = before.get? profile.manual
  others : ∀ name, name ≠ profile.phaseInput phase →
    (name ∈ profile.stageInputs.names → ∀ record, before.get? name = some record →
      record.state = .idle ∧ record.isForcedOn = false) →
    after.get? name = before.get? name

structure OverrideEngaged (profile : Profile) (before after : Inputs) : Prop where
  override : ForcedOn before after profile.manual
  others : ∀ name, name ≠ profile.manual → after.get? name = before.get? name

def Unsettled (profile : Profile) (phase : Nat) (name : String)
    (record : InputRecord) : Prop :=
  (name = profile.phaseInput phase ∨ name = profile.manual) ∧
      record.isForcedOn = false ∨
    name ∈ profile.stageInputs.names ∧ name ≠ profile.phaseInput phase ∧
      (record.state ≠ .idle ∨ record.isForcedOn = true)

/-! ## The command for one input -/

namespace Plan

variable {profile : Profile} {stage : Stage} {name : String} {record : InputRecord}
  {command : Command}

theorem phaseChoice?_target (phase : stage.number ≠ 0) :
    phaseChoice? profile stage (profile.phaseInput stage.number) record =
      forceOn record := by
  simp [phaseChoice?, phaseCommand?, Profile.phaseNames, phase]

theorem phaseChoice?_competitor (phase : stage.number ≠ 0)
    (isStage : name ∈ profile.stageInputs.names)
    (different : name ≠ profile.phaseInput stage.number) :
    phaseChoice? profile stage name record = clear record := by
  simp [phaseChoice?, phaseCommand?, Profile.phaseNames, phase, isStage, different]

theorem phaseChoice?_apart (phase : stage.number ≠ 0)
    (notStage : name ∉ profile.stageInputs.names)
    (different : name ≠ profile.phaseInput stage.number) :
    phaseChoice? profile stage name record = none := by
  simp [phaseChoice?, Profile.phaseNames, phase, notStage, different]

theorem overrideChoice?_manual (phase : stage.number ≠ 0) :
    overrideChoice? profile stage profile.manual record = forceOn record := by
  simp [overrideChoice?, overrideCommand?, phase]

theorem overrideChoice?_other (different : name ≠ profile.manual) :
    overrideChoice? profile stage name record = none :=
  if_neg different

theorem clear_of_competes (competes : record.state ≠ .idle ∨ record.isForcedOn = true) :
    clear record = some (record.command .off) :=
  if_pos competes

theorem unsettled_of_phaseChoice? (phase : stage.number ≠ 0)
    (chosen : phaseChoice? profile stage name record = some command) :
    Unsettled profile stage.number name record := by
  by_cases isTarget : name = profile.phaseInput stage.number
  · rw [isTarget, phaseChoice?_target phase, forceOn_eq_some_iff] at chosen
    exact .inl ⟨.inl isTarget, chosen.1⟩
  · by_cases isStage : name ∈ profile.stageInputs.names
    · rw [phaseChoice?_competitor phase isStage isTarget, clear_eq_some_iff] at chosen
      exact .inr ⟨isStage, isTarget, chosen.1⟩
    · rw [phaseChoice?_apart phase isStage isTarget] at chosen
      cases chosen

theorem unsettled_of_overrideChoice? (phase : stage.number ≠ 0)
    (chosen : overrideChoice? profile stage name record = some command) :
    Unsettled profile stage.number name record := by
  by_cases isManual : name = profile.manual
  · rw [isManual, overrideChoice?_manual phase, forceOn_eq_some_iff] at chosen
    exact .inl ⟨.inr isManual, chosen.1⟩
  · rw [overrideChoice?_other isManual] at chosen
    cases chosen

end Plan

theorem InputRecord.answered_forceOn (record : InputRecord) :
    ∃ token : Actuator.Token, token.mode = .on ∧
      record.answered .actuator (Plan.forceOn record) =
        { record with actuator := token } := by
  rw [Plan.forceOn]
  cases forced : record.isForcedOn with
  | true => exact ⟨record.actuator, by simpa [isForcedOn, mode] using forced, rfl⟩
  | false => exact ⟨.label .on, rfl, rfl⟩

/-! ## The effect of the two batches -/

section

variable {profile : Profile} {inputs : Inputs} {stage : Stage} {made : Plan}

theorem phaseSettled_posted (phase : stage.number ≠ 0)
    (manualApart : profile.manual ∉ profile.stageInputs.names)
    (configured : profile.phaseInput stage.number ∈ profile.stageInputs.names)
    (distinct : DistinctRows inputs inputs.names)
    (planned : plan profile inputs stage = .ok made) :
    PhaseSettled profile stage.number inputs
      (inputs.posted .actuator profile.fieldPrefix (made.phaseBatch stage)) := by
  have each := (Plan.phaseBatch_chooses planned).get?_posted .actuator distinct
    (List.Perm.refl _) profile.fieldPrefix
  have notTarget : profile.manual ≠ profile.phaseInput stage.number := by
    intro equal
    rw [equal] at manualApart
    exact manualApart configured
  have apart : ∀ name, name ≠ profile.phaseInput stage.number →
      name ∉ profile.stageInputs.names →
      (inputs.posted .actuator profile.fieldPrefix (made.phaseBatch stage)).get? name =
        inputs.get? name := by
    intro name different notStage
    rw [each name]
    simp [Plan.phaseChoice?_apart phase notStage different, InputRecord.answered]
  constructor
  case target =>
    rw [plan_of_phase phase] at planned
    rcases Plan.exists_of_ofPhase planned (.inl rfl) with ⟨target, found⟩
    rcases target.answered_forceOn with ⟨token, isOn, answered⟩
    refine ⟨target, token, found, isOn, ?_⟩
    rw [each, found, Option.map_some, Plan.phaseChoice?_target phase, answered]
  case cleared =>
    intro name isStage different record found competes
    rw [each, found, Option.map_some, Plan.phaseChoice?_competitor phase isStage different,
      Plan.clear_of_competes competes]
    rfl
  case override => exact apart profile.manual notTarget manualApart
  case others =>
    intro name different settled
    by_cases isStage : name ∈ profile.stageInputs.names
    · rw [each]
      cases found : inputs.get? name with
      | none => rfl
      | some record =>
          rw [Option.map_some, Plan.phaseChoice?_competitor phase isStage different,
            Plan.clear_eq_none_iff.mpr (settled isStage record found)]
          rfl
    · exact apart name different isStage

/-- The override batch of a plan does the same to a map in which only other inputs
have changed. -/
theorem overrideBatch_chooses_of_agree {settled : Inputs}
    (planned : plan profile inputs stage = .ok made)
    (same : settled.get? profile.manual = inputs.get? profile.manual) :
    (made.overrideBatch stage).Chooses settled (Plan.overrideChoice? profile stage) := by
  apply (Plan.overrideBatch_chooses planned).of_agree
  intro name
  by_cases isManual : name = profile.manual
  · right
    rw [isManual, same]
  · left
    intro record
    exact Plan.overrideChoice?_other isManual

theorem overrideEngaged_posted {settled : Inputs} (phase : stage.number ≠ 0)
    (distinct : DistinctRows settled settled.names)
    (planned : plan profile inputs stage = .ok made)
    (same : settled.get? profile.manual = inputs.get? profile.manual) :
    OverrideEngaged profile settled
      (settled.posted .actuator profile.fieldPrefix (made.overrideBatch stage)) := by
  have each := (overrideBatch_chooses_of_agree planned same).get?_posted .actuator
    distinct (List.Perm.refl _) profile.fieldPrefix
  constructor
  case override =>
    rw [plan_of_phase phase] at planned
    rcases Plan.exists_of_ofPhase planned (.inr (.inl rfl)) with ⟨manual, found⟩
    rcases manual.answered_forceOn with ⟨token, isOn, answered⟩
    rw [← same] at found
    refine ⟨manual, token, found, isOn, ?_⟩
    rw [each, found, Option.map_some, Plan.overrideChoice?_manual phase, answered]
  case others =>
    intro name different
    rw [each]
    simp [Plan.overrideChoice?_other different, InputRecord.answered]

/-- No command is planned for an input that is as the plan wants it. -/
theorem unsettled_of_mem (phase : stage.number ≠ 0)
    (distinct : DistinctRows inputs inputs.names)
    (planned : plan profile inputs stage = .ok made) {command : Command}
    (member : command ∈ made.phaseBatch stage ++ made.overrideBatch stage)
    {name : String} {record : InputRecord} (found : inputs.get? name = some record)
    (row : command.index = record.index) :
    Unsettled profile stage.number name record := by
  rcases List.mem_append.mp member with ofPhase | ofOverride
  · exact Plan.unsettled_of_phaseChoice? phase
      ((Plan.phaseBatch_chooses planned).choice_of_row distinct found ofPhase row)
  · exact Plan.unsettled_of_overrideChoice? phase
      ((Plan.overrideBatch_chooses planned).choice_of_row distinct found ofOverride row)

/-- The effect of a plan towards a phase. In whatever order the forms of its first
batch are carried out, they lead to one map, in which the phase is settled; those of
the second batch then engage the override. The plan has no command for an input that
is as it should be. Nothing more is asked of the profile than that the target is a
phase input and the override is none. -/
theorem plan_phase_effect (phase : stage.number ≠ 0)
    (manualApart : profile.manual ∉ profile.stageInputs.names)
    (configured : profile.phaseInput stage.number ∈ profile.stageInputs.names)
    (distinct : DistinctRows inputs inputs.names)
    (planned : plan profile inputs stage = .ok made) :
    ∃ settled engaged,
      PhaseSettled profile stage.number inputs settled ∧
      OverrideEngaged profile settled engaged ∧
      (∀ order : Batch, order.Perm made.first →
        inputs.posted .actuator profile.fieldPrefix order = settled) ∧
      (∀ order : Batch, order.Perm made.second →
        settled.posted .actuator profile.fieldPrefix order = engaged) ∧
      ∀ command ∈ made.first ++ made.second, ∀ name record,
        inputs.get? name = some record → command.index = record.index →
        Unsettled profile stage.number name record := by
  have first : made.phaseBatch stage = made.first := if_neg phase
  have second : made.overrideBatch stage = made.second := if_neg phase
  rw [← first, ← second]
  have settles := phaseSettled_posted phase manualApart configured distinct planned
  have distinctAfter := Inputs.distinctRows_posted .actuator distinct
    profile.fieldPrefix (made.phaseBatch stage)
  refine ⟨_, _, settles,
    overrideEngaged_posted phase distinctAfter planned settles.override, ?_, ?_, ?_⟩
  · intro order reordered
    exact (Plan.phaseBatch_chooses planned).posted_eq_of_perm distinct reordered _
  · intro order reordered
    exact (overrideBatch_chooses_of_agree planned settles.override).posted_eq_of_perm
      distinctAfter reordered _
  · intro command member name record found row
    exact unsettled_of_mem phase distinct planned member found row

end

/-- Two phase inputs, of which the other one is switched off before the target is
forced on. -/
theorem pair_plan_phase_effect :
    ∃ made settled engaged, plan (pairProfile "M") pairInputs pairStage = .ok made ∧
      made.first = [⟨"P3", 1, .on⟩, ⟨"P4", 2, .off⟩] ∧
      made.second = [⟨"M", 0, .on⟩] ∧
      PhaseSettled (pairProfile "M") 3 pairInputs settled ∧
      OverrideEngaged (pairProfile "M") settled engaged ∧
      pairInputs.posted .actuator "R" [⟨"P4", 2, .off⟩, ⟨"P3", 1, .on⟩] = settled ∧
      settled.posted .actuator "R" [⟨"M", 0, .on⟩] = engaged := by
  have planned : plan (pairProfile "M") pairInputs pairStage =
      .ok { first := [⟨"P3", 1, .on⟩, ⟨"P4", 2, .off⟩], second := [⟨"M", 0, .on⟩] } :=
    rfl
  rcases plan_phase_effect (by decide) (by decide) (by decide)
    (distinctRows_of_entries (by decide) _) planned with
    ⟨settled, engaged, settles, engages, anyOrder, thenOverride, -⟩
  exact ⟨_, settled, engaged, planned, rfl, rfl, settles, engages,
    anyOrder _ (List.Perm.swap _ _ []), thenOverride _ (List.Perm.refl _)⟩

end SignalControl
