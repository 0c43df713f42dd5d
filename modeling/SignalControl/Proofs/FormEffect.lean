import SignalControl.Proofs.CommandEffect
import SignalControl.Proofs.OverrideBatch
import SignalControl.Proofs.Panel

namespace SignalControl

/-! What becomes of a map of inputs once the forms of commands were carried out. A
form sets the input of one row to one mode. Where every input has a row of its own
and at most one command, the order of the forms makes no difference, and each input
can be looked at alone. -/

/-! ## How one input reacts -/

/-- What an input becomes when its row is set to a mode. It keeps the row and has the
mode, and setting it once more changes nothing. -/
structure Reaction where
  react : Actuator.Mode → InputRecord → InputRecord
  index_react : ∀ mode record, (react mode record).index = record.index
  mode_react : ∀ mode record, (react mode record).mode = mode
  react_react : ∀ mode record, react mode (react mode record) = react mode record

namespace Reaction

def actuator : Reaction where
  react mode record := { record with actuator := .label mode }
  index_react _ _ := rfl
  mode_react _ _ := rfl
  react_react _ _ := rfl

/-- The level that an input has while its actuator is in a mode. A flashing actuator
leaves it to the program. -/
def levelOf (state : InputState) : Actuator.Mode → InputState
  | .flashing => state
  | .off => .idle
  | .on => .active

def level : Reaction where
  react mode record :=
    { record with actuator := .label mode, state := levelOf record.state mode }
  index_react _ _ := rfl
  mode_react _ _ := rfl
  react_react mode _ := by cases mode <;> rfl

end Reaction

namespace InputRecord

variable {reaction : Reaction} {record : InputRecord} {setting : Setting}
  {settings : List Setting} {mode : Actuator.Mode}

def set (reaction : Reaction) (record : InputRecord) (setting : Setting) :
    InputRecord :=
  if setting.row = record.index then reaction.react setting.mode record else record

def afterSettings (reaction : Reaction) (record : InputRecord)
    (settings : List Setting) : InputRecord :=
  settings.foldl (set reaction) record

@[simp] theorem afterSettings_cons :
    record.afterSettings reaction (setting :: settings) =
      (record.set reaction setting).afterSettings reaction settings := rfl

theorem set_of_row (row : setting.row = record.index) :
    record.set reaction setting = reaction.react setting.mode record :=
  if_pos row

theorem set_of_apart (apart : setting.row ≠ record.index) :
    record.set reaction setting = record :=
  if_neg apart

@[simp] theorem index_set : (record.set reaction setting).index = record.index := by
  rw [set]
  split
  next => exact reaction.index_react _ _
  next => rfl

@[simp] theorem index_afterSettings :
    (record.afterSettings reaction settings).index = record.index := by
  induction settings generalizing record with
  | nil => rfl
  | cons setting rest induction => rw [afterSettings_cons, induction, index_set]

theorem afterSettings_of_apart
    (apart : ∀ setting ∈ settings, setting.row ≠ record.index) :
    record.afterSettings reaction settings = record := by
  induction settings with
  | nil => rfl
  | cons setting rest induction =>
      rw [afterSettings_cons, set_of_apart (apart setting List.mem_cons_self)]
      apply induction
      intro other member
      exact apart other (List.mem_cons_of_mem setting member)

theorem afterSettings_react
    (only : ∀ setting ∈ settings, setting.row = record.index → setting.mode = mode) :
    (reaction.react mode record).afterSettings reaction settings =
      reaction.react mode record := by
  induction settings with
  | nil => rfl
  | cons setting rest induction =>
      have kept : (reaction.react mode record).set reaction setting =
          reaction.react mode record := by
        by_cases row : setting.row = record.index
        · rw [set_of_row (row.trans (reaction.index_react mode record).symm),
            only setting List.mem_cons_self row, reaction.react_react]
        · apply set_of_apart
          rwa [reaction.index_react]
      rw [afterSettings_cons, kept]
      apply induction
      intro other member
      exact only other (List.mem_cons_of_mem setting member)

theorem afterSettings_of_mem (member : setting ∈ settings)
    (row : setting.row = record.index)
    (only : ∀ other ∈ settings, other.row = record.index → other.mode = setting.mode) :
    record.afterSettings reaction settings = reaction.react setting.mode record := by
  induction settings with
  | nil => cases member
  | cons first rest induction =>
      have onlyRest : ∀ other ∈ rest, other.row = record.index →
          other.mode = setting.mode := by
        intro other inRest
        exact only other (List.mem_cons_of_mem first inRest)
      rw [afterSettings_cons]
      by_cases here : first.row = record.index
      · rw [set_of_row here, only first List.mem_cons_self here]
        exact afterSettings_react onlyRest
      · rw [set_of_apart here]
        rcases List.mem_cons.mp member with equal | inRest
        · rw [equal] at row
          exact absurd row here
        · exact induction inRest onlyRest

def answered (reaction : Reaction) (record : InputRecord) :
    Option Command → InputRecord
  | none => record
  | some command => reaction.react command.mode record

end InputRecord

/-! ## Maps of inputs -/

namespace Inputs

variable {reaction : Reaction} {inputs : Inputs} {name : String}

def set (reaction : Reaction) (inputs : Inputs) (setting : Setting) : Inputs :=
  inputs.map fun record => record.set reaction setting

def afterSettings (reaction : Reaction) (inputs : Inputs)
    (settings : List Setting) : Inputs :=
  settings.foldl (set reaction) inputs

/-- The map once the forms of the commands were carried out one after another, each
by the row and the mode that are read off it. -/
def posted (reaction : Reaction) (fieldPrefix : String) (inputs : Inputs)
    (batch : Batch) : Inputs :=
  inputs.afterSettings reaction
    ((batch.map (Command.payload fieldPrefix)).filterMap
      (Payload.setting? fieldPrefix))

theorem get?_afterSettings (inputs : Inputs) (settings : List Setting)
    (name : String) :
    (inputs.afterSettings reaction settings).get? name =
      (inputs.get? name).map fun record => record.afterSettings reaction settings :=
  inputs.get?_foldl_map (InputRecord.set reaction) settings name

theorem posted_eq_afterSettings (fieldPrefix : String) (inputs : Inputs)
    (batch : Batch) :
    inputs.posted reaction fieldPrefix batch =
      inputs.afterSettings reaction (batch.map Command.setting) := by
  have read : Payload.setting? fieldPrefix ∘ Command.payload fieldPrefix =
      some ∘ Command.setting := by
    funext command
    exact command.setting?_payload fieldPrefix
  rw [posted, List.filterMap_map, read, List.filterMap_eq_map]

theorem distinctRows_posted (reaction : Reaction)
    (distinct : DistinctRows inputs inputs.names) (fieldPrefix : String)
    (batch : Batch) :
    DistinctRows (inputs.posted reaction fieldPrefix batch)
      (inputs.posted reaction fieldPrefix batch).names := by
  rw [posted_eq_afterSettings]
  intro left _ right _ leftRecord rightRecord foundLeft foundRight sameRow
  rw [get?_afterSettings, Option.map_eq_some_iff] at foundLeft foundRight
  rcases foundLeft with ⟨leftBefore, leftFound, rfl⟩
  rcases foundRight with ⟨rightBefore, rightFound, rfl⟩
  rw [InputRecord.index_afterSettings, InputRecord.index_afterSettings] at sameRow
  exact distinct left (NameTable.mem_names_iff.mpr ⟨_, leftFound⟩)
    right (NameTable.mem_names_iff.mpr ⟨_, rightFound⟩) leftBefore rightBefore leftFound
    rightFound sameRow

end Inputs

/-! ## Batches with at most one command for each input -/

/-- The batch holds the command that is chosen for each input, and no other. -/
structure Batch.Chooses (batch : Batch) (inputs : Inputs)
    (choice? : String → InputRecord → Option Command) : Prop where
  mem_iff : ∀ command, command ∈ batch ↔
    ∃ name record, inputs.get? name = some record ∧ choice? name record = some command
  index_eq : ∀ name record command, choice? name record = some command →
    command.index = record.index

namespace Batch.Chooses

variable {reaction : Reaction} {inputs : Inputs} {batch order : Batch}
  {choice? : String → InputRecord → Option Command} {name : String}
  {record : InputRecord} {command : Command}

theorem choice_of_row (chooses : batch.Chooses inputs choice?)
    (distinct : DistinctRows inputs inputs.names)
    (found : inputs.get? name = some record) (member : command ∈ batch)
    (row : command.index = record.index) : choice? name record = some command := by
  rcases (chooses.mem_iff command).mp member with ⟨other, otherRecord, foundOther, chosen⟩
  have otherRow := chooses.index_eq other otherRecord command chosen
  have sameName : other = name :=
    distinct other (NameTable.mem_names_iff.mpr ⟨_, foundOther⟩)
      name (NameTable.mem_names_iff.mpr ⟨_, found⟩) otherRecord record foundOther found
      (otherRow.symm.trans row)
  subst sameName
  rw [foundOther, Option.some.injEq] at found
  rw [← found]
  exact chosen

theorem eq_nil_iff (chooses : batch.Chooses inputs choice?) :
    batch = [] ↔
      ∀ name record, inputs.get? name = some record → choice? name record = none := by
  rw [List.eq_nil_iff_forall_not_mem]
  constructor
  · intro empty name record found
    rw [Option.eq_none_iff_forall_ne_some]
    intro command chosen
    exact empty command ((chooses.mem_iff command).mpr ⟨name, record, found, chosen⟩)
  · intro noChoice command member
    rcases (chooses.mem_iff command).mp member with ⟨name, record, found, chosen⟩
    rw [noChoice name record found] at chosen
    cases chosen

/-- Whatever their order, the forms make of each input what its own command asks
for. -/
theorem get?_posted (chooses : batch.Chooses inputs choice?) (reaction : Reaction)
    (distinct : DistinctRows inputs inputs.names) (reordered : order.Perm batch)
    (fieldPrefix name : String) :
    (inputs.posted reaction fieldPrefix order).get? name =
      (inputs.get? name).map fun record =>
        record.answered reaction (choice? name record) := by
  rw [Inputs.posted_eq_afterSettings, Inputs.get?_afterSettings]
  cases found : inputs.get? name with
  | none => rfl
  | some record =>
      rw [Option.map_some, Option.map_some, Option.some.injEq]
      -- Rows are distinct, so only the command for this input can set this row.
      have ofRow : ∀ setting ∈ order.map Command.setting,
          setting.row = record.index →
          ∃ command, choice? name record = some command ∧
            setting = command.setting := by
        intro setting member row
        rcases List.mem_map.mp member with ⟨command, inOrder, rfl⟩
        exact ⟨command, chooses.choice_of_row distinct found
          (reordered.mem_iff.mp inOrder) row, rfl⟩
      cases chosen : choice? name record with
      | none =>
          apply InputRecord.afterSettings_of_apart
          intro setting member row
          rcases ofRow setting member row with ⟨command, impossible, -⟩
          rw [chosen] at impossible
          cases impossible
      | some command =>
          have member : command ∈ order := reordered.mem_iff.mpr
            ((chooses.mem_iff command).mpr ⟨name, record, found, chosen⟩)
          have row := chooses.index_eq name record command chosen
          apply InputRecord.afterSettings_of_mem (List.mem_map_of_mem member) row
          intro setting otherMember otherRow
          rcases ofRow setting otherMember otherRow with ⟨other, otherChosen, rfl⟩
          rw [chosen, Option.some.injEq] at otherChosen
          rw [otherChosen]

theorem posted_eq_of_perm (chooses : batch.Chooses inputs choice?)
    (distinct : DistinctRows inputs inputs.names) (reordered : order.Perm batch)
    (fieldPrefix : String) :
    inputs.posted reaction fieldPrefix order =
      inputs.posted reaction fieldPrefix batch := by
  apply NameTable.ext_get?
  intro name
  rw [chooses.get?_posted reaction distinct reordered,
    chooses.get?_posted reaction distinct (List.Perm.refl batch)]

/-- The choice is the same from another map that has the same records of the inputs
that have a command. -/
theorem of_agree {others : Inputs} (chooses : batch.Chooses inputs choice?)
    (agree : ∀ name, (∀ record, choice? name record = none) ∨
      others.get? name = inputs.get? name) :
    batch.Chooses others choice? where
  mem_iff := by
    intro command
    rw [chooses.mem_iff]
    apply exists_congr
    intro name
    apply exists_congr
    intro record
    rcases agree name with noChoice | same
    · simp [noChoice]
    · rw [same]
  index_eq := chooses.index_eq

theorem append {others : Batch} {first? second? : String → InputRecord → Option Command}
    (first : batch.Chooses inputs first?) (second : others.Chooses inputs second?)
    (either : ∀ name record command, choice? name record = some command ↔
      first? name record = some command ∨ second? name record = some command) :
    (batch ++ others : Batch).Chooses inputs choice? where
  mem_iff := by
    intro command
    simp only [List.mem_append, first.mem_iff, second.mem_iff, either, and_or_left,
      exists_or]
  index_eq := by
    intro name record command chosen
    rcases (either name record command).mp chosen with ofFirst | ofSecond
    · exact first.index_eq name record command ofFirst
    · exact second.index_eq name record command ofSecond

end Batch.Chooses

/-! ## The batches of a plan -/

section

variable {profile : Profile} {inputs : Inputs} {stage : Stage} {made : Plan}

def Plan.phaseChoice? (profile : Profile) (stage : Stage) (name : String)
    (record : InputRecord) : Option Command :=
  if name ∈ profile.phaseNames stage then phaseCommand? profile stage name record
  else none

def Plan.overrideChoice? (profile : Profile) (stage : Stage) (name : String)
    (record : InputRecord) : Option Command :=
  if name = profile.manual then overrideCommand? stage record else none

theorem Plan.phaseBatch_chooses (planned : plan profile inputs stage = .ok made) :
    (made.phaseBatch stage).Chooses inputs (phaseChoice? profile stage) where
  mem_iff := by
    intro command
    simp only [mem_phaseBatch_iff planned, phaseChoice?, Option.ite_none_right_eq_some]
    constructor
    · rintro ⟨name, isPhase, record, found, commanded⟩
      exact ⟨name, record, found, isPhase, commanded⟩
    · rintro ⟨name, record, found, isPhase, commanded⟩
      exact ⟨name, isPhase, record, found, commanded⟩
  index_eq := by
    intro name record command chosen
    rw [phaseChoice?, Option.ite_none_right_eq_some] at chosen
    exact index_of_phaseCommand? chosen.2

theorem Plan.overrideBatch_chooses (planned : plan profile inputs stage = .ok made) :
    (made.overrideBatch stage).Chooses inputs (overrideChoice? profile stage) where
  mem_iff := by
    intro command
    simp only [mem_overrideBatch_iff planned, overrideChoice?,
      Option.ite_none_right_eq_some]
    constructor
    · rintro ⟨manual, found, commanded⟩
      exact ⟨_, manual, found, rfl, commanded⟩
    · rintro ⟨_, manual, found, rfl, commanded⟩
      exact ⟨manual, found, commanded⟩
  index_eq := by
    intro name record command chosen
    rw [overrideChoice?, Option.ite_none_right_eq_some] at chosen
    exact index_of_overrideCommand? chosen.2

end

end SignalControl
