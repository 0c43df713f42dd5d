import SignalControl.Proofs.CommandedInputs
import SignalControl.Proofs.PhaseNumber
import SignalControl.Proofs.SoughtInputs

namespace SignalControl

/-! The manual override has a batch of its own in every plan, the second one towards
a phase and the first one of a reset. That batch sets nothing else. The other batch
keeps off the override exactly if the profile keeps the override apart from the
inputs that the other batch is there for. -/

/-! ## The two batches of a plan -/

def Command.Addresses (command : Command) (inputs : Inputs) (name : String) : Prop :=
  ∃ record, inputs.get? name = some record ∧ command.index = record.index

def Plan.overrideBatch (plan : Plan) (stage : Stage) : Batch :=
  if stage.number = 0 then plan.first else plan.second

def Plan.phaseBatch (plan : Plan) (stage : Stage) : Batch :=
  if stage.number = 0 then plan.second else plan.first

/-- The inputs that the phase batch is there for. The target of a phase is one of
them even if it is no phase input. -/
def Profile.phaseNames (profile : Profile) (stage : Stage) : List String :=
  if stage.number = 0 then profile.stageInputs.names
  else profile.phaseInput stage.number :: profile.stageInputs.names

def Profile.needed (profile : Profile) (stage : Stage) : List String :=
  profile.manual :: profile.phaseNames stage

def Plan.overrideCommand? (stage : Stage) (record : InputRecord) : Option Command :=
  if stage.number = 0 then release record else forceOn record

def Plan.phaseCommand? (profile : Profile) (stage : Stage) (name : String)
    (record : InputRecord) : Option Command :=
  if stage.number = 0 then release record
  else if name = profile.phaseInput stage.number then forceOn record
  else clear record

section

variable {profile : Profile} {inputs : Inputs} {stage : Stage} {made : Plan}
  {name left right : String} {record : InputRecord} {command : Command}

theorem mem_overrideBatch_iff (planned : plan profile inputs stage = .ok made) :
    command ∈ made.overrideBatch stage ↔
      ∃ manual, inputs.get? profile.manual = some manual ∧
        Plan.overrideCommand? stage manual = some command := by
  by_cases reset : stage.number = 0
  · rw [plan_of_reset reset] at planned
    simp only [Plan.overrideBatch, Plan.overrideCommand?, if_pos reset]
    exact Plan.mem_first_of_ofReset planned
  · rw [plan_of_phase reset] at planned
    simp only [Plan.overrideBatch, Plan.overrideCommand?, if_neg reset,
      Plan.forceOn_eq_some_iff]
    exact Plan.mem_second_of_ofPhase planned

theorem mem_phaseBatch_iff (planned : plan profile inputs stage = .ok made) :
    command ∈ made.phaseBatch stage ↔
      ∃ name ∈ profile.phaseNames stage, ∃ record,
        inputs.get? name = some record ∧
        Plan.phaseCommand? profile stage name record = some command := by
  by_cases reset : stage.number = 0
  · rw [plan_of_reset reset] at planned
    simp only [Plan.phaseBatch, Profile.phaseNames, Plan.phaseCommand?, if_pos reset]
    exact Plan.mem_second_of_ofReset planned
  · rw [plan_of_phase reset] at planned
    simp only [Plan.phaseBatch, Profile.phaseNames, Plan.phaseCommand?, if_neg reset]
    rw [Plan.mem_first_of_ofPhase planned]
    constructor
    · rintro (⟨target, found, onTarget⟩ |
        ⟨name, isStage, different, record, found, cleared⟩)
      · refine ⟨_, List.mem_cons_self, target, found, ?_⟩
        rw [if_pos rfl]
        exact Plan.forceOn_eq_some_iff.mpr onTarget
      · refine ⟨name, List.mem_cons_of_mem _ isStage, record, found, ?_⟩
        rw [if_neg different]
        exact Plan.clear_eq_some_iff.mpr cleared
    · rintro ⟨name, isPhase, record, found, commanded⟩
      split at commanded
      next isTarget =>
        subst isTarget
        exact .inl ⟨record, found, Plan.forceOn_eq_some_iff.mp commanded⟩
      next different =>
        exact .inr ⟨name, (List.mem_cons.mp isPhase).resolve_left different, different,
          record, found, Plan.clear_eq_some_iff.mp commanded⟩

/-! ## Commands and rows -/

theorem Plan.index_of_overrideCommand?
    (commanded : overrideCommand? stage record = some command) :
    command.index = record.index := by
  rw [overrideCommand?] at commanded
  split at commanded
  next => exact commandsOwn_release.index_eq commanded
  next => exact commandsOwn_forceOn.index_eq commanded

theorem Plan.index_of_phaseCommand?
    (commanded : phaseCommand? profile stage name record = some command) :
    command.index = record.index := by
  rw [phaseCommand?] at commanded
  split at commanded
  next => exact commandsOwn_release.index_eq commanded
  next =>
    split at commanded
    next => exact commandsOwn_forceOn.index_eq commanded
    next => exact commandsOwn_clear.index_eq commanded

/-- An input of the phase batch that is active and not forced gets a command,
whatever the stage. -/
theorem Plan.exists_phaseCommand? (profile : Profile) (stage : Stage) (name : String)
    (active : record.state = .active) (flashing : record.mode = .flashing) :
    ∃ command, phaseCommand? profile stage name record = some command := by
  rw [phaseCommand?]
  split
  next => exact ⟨record.command .off, by simp [release, releaseMode, active, flashing]⟩
  next =>
    split
    next =>
      have notForced : record.isForcedOn = false := by
        simp [InputRecord.isForcedOn, flashing]
      exact ⟨_, forceOn_eq_some_iff.mpr ⟨notForced, rfl⟩⟩
    next =>
      have competes : record.state ≠ .idle := by simp [active]
      exact ⟨_, clear_eq_some_iff.mpr ⟨.inl competes, rfl⟩⟩

theorem Command.Addresses.unique (distinct : DistinctRows inputs inputs.names)
    (addresses : command.Addresses inputs left)
    (others : command.Addresses inputs right) : left = right := by
  rcases addresses with ⟨leftRecord, foundLeft, leftRow⟩
  rcases others with ⟨rightRecord, foundRight, rightRow⟩
  exact distinct left (NameTable.mem_names_iff.mpr ⟨_, foundLeft⟩)
    right (NameTable.mem_names_iff.mpr ⟨_, foundRight⟩) leftRecord rightRecord
    foundLeft foundRight (leftRow.symm.trans rightRow)

/-! ## Plans from maps with rows of their own -/

theorem needed_of_sought (isSought : name ∈ profile.sought stage) :
    name ∈ profile.needed stage := by
  rw [Profile.sought] at isSought
  rw [Profile.needed, Profile.phaseNames]
  split at isSought
  next reset =>
    rw [if_pos reset]
    exact isSought
  next phase =>
    rw [List.mem_cons, List.mem_append, List.mem_filter, List.mem_singleton] at isSought
    rw [if_neg phase, List.mem_cons, List.mem_cons]
    rcases isSought with isTarget | ⟨isStage, -⟩ | isManual
    · exact .inr (.inl isTarget)
    · exact .inr (.inr isStage)
    · exact .inl isManual

theorem exists_plan
    (found : ∀ name ∈ profile.needed stage, ∃ record, inputs.get? name = some record) :
    ∃ made, plan profile inputs stage = .ok made := by
  apply exists_plan_iff.mpr
  intro name isSought
  exact NameTable.contains_iff.mpr (found name (needed_of_sought isSought))

end

/-- A plan made from a map in which every record has a name and a row of its own. -/
structure Planned (profile : Profile) (stage : Stage) (inputs : Inputs)
    (made : Plan) : Prop where
  keyed : KeyedByName inputs
  distinct : DistinctRows inputs inputs.names
  planned : plan profile inputs stage = .ok made

namespace Planned

variable {profile : Profile} {stage : Stage} {inputs : Inputs} {made : Plan}
  {command : Command}

theorem overrideBatch_iff (settled : Planned profile stage inputs made)
    (member : command ∈ made.overrideBatch stage) (name : String) :
    command.Addresses inputs name ↔ name = profile.manual := by
  rcases (mem_overrideBatch_iff settled.planned).mp member with
    ⟨manual, found, commanded⟩
  have addressed : command.Addresses inputs profile.manual :=
    ⟨manual, found, Plan.index_of_overrideCommand? commanded⟩
  constructor
  · intro addresses
    exact addresses.unique settled.distinct addressed
  · rintro rfl
    exact addressed

theorem phaseBatch_apart (settled : Planned profile stage inputs made)
    (apart : profile.manual ∉ profile.phaseNames stage)
    (member : command ∈ made.phaseBatch stage) :
    ¬ command.Addresses inputs profile.manual := by
  intro manual
  rcases (mem_phaseBatch_iff settled.planned).mp member with
    ⟨name, isPhase, record, found, commanded⟩
  have addressed : command.Addresses inputs name :=
    ⟨record, found, Plan.index_of_phaseCommand? commanded⟩
  rw [manual.unique settled.distinct addressed] at apart
  exact apart isPhase

end Planned

/-! ## Inputs that are all active

Where the override is an input of the phase batch, a map in which every input is
active and flashing makes that batch command it. -/

def InputRecord.shown (index : UInt32) (name : String) (state : InputState)
    (mode : Actuator.Mode) : InputRecord where
  index := index
  number := index + 1
  name := name
  state := state
  stateTime := "0"
  actuator := .label mode

namespace Profile

variable (profile : Profile) (stage : Stage)

def row (name : String) : UInt32 :=
  match profile.stageInputs.get? name with
  | some phase => UInt32.ofNat phase
  | none => if name = profile.manual then 0 else 9

def activeRecord (name : String) : InputRecord :=
  .shown (profile.row name) name .active .flashing

def activeInputs : Inputs :=
  NameTable.ofList
    ((profile.needed stage).map fun name => (name, profile.activeRecord name))

variable {profile stage} {name : String} {record : InputRecord}

theorem get?_activeInputs :
    (profile.activeInputs stage).get? name = some record ↔
      name ∈ profile.needed stage ∧ record = profile.activeRecord name := by
  rw [activeInputs, NameTable.get?_ofList_map]
  by_cases isNeeded : name ∈ profile.needed stage
  · rw [if_pos isNeeded, Option.some.injEq, and_iff_right isNeeded, eq_comm]
  · simp [isNeeded]

theorem mem_needed_iff :
    name ∈ profile.needed stage ↔
      name = profile.manual ∨ name ∈ profile.phaseNames stage := by
  rw [needed, List.mem_cons]

theorem eq_of_mem_needed (isNeeded : name ∈ profile.needed stage)
    (noPhase : profile.stageInputs.get? name = none) :
    name = profile.manual ∨ name = profile.phaseInput stage.number := by
  have notStage : name ∉ profile.stageInputs.names := by
    intro isStage
    rcases NameTable.mem_names_iff.mp isStage with ⟨phase, found⟩
    rw [noPhase] at found
    cases found
  rcases mem_needed_iff.mp isNeeded with isManual | isPhase
  · exact .inl isManual
  · right
    rw [phaseNames] at isPhase
    split at isPhase
    next => exact absurd isPhase notStage
    next => exact (List.mem_cons.mp isPhase).resolve_right notStage

theorem row_of_phase (phases : PhasesPlaced profile.stageInputs) {phase : Nat}
    (found : profile.stageInputs.get? name = some phase) :
    (profile.row name).toNat = phase ∧ 1 ≤ phase ∧ phase ≤ 8 := by
  rcases phaseNumber_eq_ok_iff.mp (phases.numbered name phase found) with
    ⟨-, positive, small⟩
  refine ⟨?_, positive, small⟩
  rw [row, found]
  exact UInt32.toNat_ofNat_of_lt' (by simp only [UInt32.size]; omega)

theorem row_of_none (noPhase : profile.stageInputs.get? name = none) :
    (profile.row name).toNat = if name = profile.manual then 0 else 9 := by
  rw [row, noPhase]
  by_cases isManual : name = profile.manual
  · simp [isManual]
  · simp [isManual]

theorem row_injective (phases : PhasesPlaced profile.stageInputs)
    {left right : String} (needsLeft : left ∈ profile.needed stage)
    (needsRight : right ∈ profile.needed stage)
    (sameRow : profile.row left = profile.row right) : left = right := by
  -- Phases have the rows from 1 to 8, and the rows 0 and 9 have one input each.
  have sameNumber : (profile.row left).toNat = (profile.row right).toNat := by
    rw [sameRow]
  cases placedLeft : profile.stageInputs.get? left with
  | some leftPhase =>
      rcases row_of_phase phases placedLeft with ⟨leftRow, leftPositive, leftSmall⟩
      cases placedRight : profile.stageInputs.get? right with
      | some rightPhase =>
          rcases row_of_phase phases placedRight with ⟨rightRow, -, -⟩
          have samePhase : leftPhase = rightPhase := by omega
          rw [← samePhase] at placedRight
          exact phases.distinct left right leftPhase placedLeft placedRight
      | none =>
          have rightRow := row_of_none placedRight
          split at rightRow <;> omega
  | none =>
      have leftRow := row_of_none placedLeft
      cases placedRight : profile.stageInputs.get? right with
      | some rightPhase =>
          rcases row_of_phase phases placedRight with
            ⟨rightRow, rightPositive, rightSmall⟩
          split at leftRow <;> omega
      | none =>
          have rightRow := row_of_none placedRight
          split at leftRow
          next leftManual =>
            split at rightRow
            next rightManual => rw [leftManual, rightManual]
            next => omega
          next leftOther =>
            split at rightRow
            next => omega
            next rightOther =>
              rw [(eq_of_mem_needed needsLeft placedLeft).resolve_left leftOther,
                (eq_of_mem_needed needsRight placedRight).resolve_left rightOther]

theorem exists_planned_activeInputs (phases : PhasesPlaced profile.stageInputs)
    (stage : Stage) : ∃ made, Planned profile stage (profile.activeInputs stage) made := by
  have present : ∀ name ∈ profile.needed stage,
      ∃ record, (profile.activeInputs stage).get? name = some record := by
    intro name isNeeded
    exact ⟨_, get?_activeInputs.mpr ⟨isNeeded, rfl⟩⟩
  rcases exists_plan present with ⟨made, planned⟩
  refine ⟨made, ?_, ?_, planned⟩
  · intro name record found
    rw [(get?_activeInputs.mp found).2]
    rfl
  · intro left _ right _ leftRecord rightRecord foundLeft foundRight sameRow
    rcases get?_activeInputs.mp foundLeft with ⟨needsLeft, rfl⟩
    rcases get?_activeInputs.mp foundRight with ⟨needsRight, rfl⟩
    exact row_injective phases needsLeft needsRight sameRow

end Profile

/-! ## The override and the phase batch -/

/-- Whatever map a plan is made from, its override batch addresses the manual
override alone. Its phase batch never addresses the override exactly if the override
is none of the inputs that the phase batch is there for. -/
theorem override_in_own_batch {description : ProfileDescription} {profile : Profile}
    (accepted : Profile.ofDescription description = .ok profile) (stage : Stage) :
    (∀ inputs made, Planned profile stage inputs made →
      ∀ command ∈ made.overrideBatch stage, ∀ name,
        command.Addresses inputs name ↔ name = profile.manual) ∧
    ((∀ inputs made, Planned profile stage inputs made →
      ∀ command ∈ made.phaseBatch stage,
        ¬ command.Addresses inputs profile.manual) ↔
      profile.manual ∉ profile.phaseNames stage) := by
  have phases := Profile.ofDescription_phasesPlaced accepted
  refine ⟨?_, ?_, ?_⟩
  · intro inputs made settled command member name
    exact settled.overrideBatch_iff member name
  · intro avoids isPhase
    rcases Profile.exists_planned_activeInputs phases stage with ⟨made, settled⟩
    have found := Profile.get?_activeInputs.mpr
      ⟨Profile.mem_needed_iff.mpr (.inr isPhase), rfl⟩
    have active : (profile.activeRecord profile.manual).state = .active := rfl
    have flashing : (profile.activeRecord profile.manual).mode = .flashing := rfl
    rcases Plan.exists_phaseCommand? profile stage profile.manual active flashing with
      ⟨command, commanded⟩
    have member := (mem_phaseBatch_iff settled.planned).mpr
      ⟨_, isPhase, _, found, commanded⟩
    exact avoids _ made settled command member
      ⟨_, found, Plan.index_of_phaseCommand? commanded⟩
  · intro apart inputs made settled command member
    exact settled.phaseBatch_apart apart member

/-! ## An override that is a phase input

Of three inputs, two select phases, and the override may be the third one or one of
the two. -/

def pairDescription (manual : String) : ProfileDescription where
  inputs := ["M", "P3", "P4"]
  stages := ["P3", "P4"]
  manual := manual
  phasePrefix := "P"
  fieldPrefix := "R"
  credentials := ⟨"", ""⟩

def pairProfile (manual : String) : Profile where
  inputs := Profile.inputSet ["M", "P3", "P4"]
  stageInputs := NameTable.ofList [("P3", 3), ("P4", 4)]
  manual := manual
  phasePrefix := "P"
  fieldPrefix := "R"
  credentials := ⟨"", ""⟩

def pairInputs : Inputs :=
  NameTable.ofList
    [("M", .shown 0 "M" .idle .flashing), ("P3", .shown 1 "P3" .idle .flashing),
      ("P4", .shown 2 "P4" .active .on)]

def pairStage : Stage := { number := 3 }

theorem pairInputs_planned {manual : String} {made : Plan}
    (planned : plan (pairProfile manual) pairInputs pairStage = .ok made) :
    Planned (pairProfile manual) pairStage pairInputs made where
  keyed := keyedByName_of_entries (by decide)
  distinct := distinctRows_of_entries (by decide) _
  planned := planned

/-- With the third input for the override, the phase batch keeps off it. -/
theorem pair_override_in_own_batch :
    ∃ made, plan (pairProfile "M") pairInputs pairStage = .ok made ∧
      made.phaseBatch pairStage ≠ [] ∧
      (∀ command ∈ made.overrideBatch pairStage, ∀ name,
        command.Addresses pairInputs name ↔ name = "M") ∧
      ∀ command ∈ made.phaseBatch pairStage, ¬ command.Addresses pairInputs "M" := by
  have accepted : Profile.ofDescription (pairDescription "M") = .ok (pairProfile "M") :=
    rfl
  have planned : plan (pairProfile "M") pairInputs pairStage =
      .ok { first := [⟨"P3", 1, .on⟩, ⟨"P4", 2, .off⟩], second := [⟨"M", 0, .on⟩] } :=
    rfl
  have apart : (pairProfile "M").manual ∉ (pairProfile "M").phaseNames pairStage := by
    decide
  have settled := pairInputs_planned planned
  rcases override_in_own_batch accepted pairStage with ⟨alone, keepsOff⟩
  exact ⟨_, planned, by decide, alone _ _ settled, keepsOff.mpr apart _ _ settled⟩

/-- With the second phase input for the override, the phase batch switches it off. -/
theorem pair_override_in_phase_batch :
    ∃ made, Profile.ofDescription (pairDescription "P4") = .ok (pairProfile "P4") ∧
      Planned (pairProfile "P4") pairStage pairInputs made ∧
      ∃ command ∈ made.phaseBatch pairStage, command.mode = .off ∧
        command.Addresses pairInputs (pairProfile "P4").manual := by
  refine ⟨{ first := [⟨"P3", 1, .on⟩, ⟨"P4", 2, .off⟩], second := [] }, rfl,
    pairInputs_planned rfl, ⟨"P4", 2, .off⟩, by decide, rfl, ?_⟩
  exact ⟨.shown 2 "P4" .active .on, rfl, rfl⟩

end SignalControl
