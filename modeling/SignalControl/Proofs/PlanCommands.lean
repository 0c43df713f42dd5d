import SignalControl.Plan
import SignalControl.Proofs.Fallible

namespace SignalControl

/-! Which commands a plan consists of. Planning succeeds exactly when every input
that it needs is in the map, and each command then sets one of those inputs. -/

/-! ## Maps of inputs -/

def KeyedByName (inputs : Inputs) : Prop :=
  ∀ name record, inputs.get? name = some record → record.name = name

/-- No two of the names have records of the same row. -/
def DistinctRows (inputs : Inputs) (names : List String) : Prop :=
  ∀ left ∈ names, ∀ right ∈ names, ∀ leftRecord rightRecord,
    inputs.get? left = some leftRecord → inputs.get? right = some rightRecord →
    leftRecord.index = rightRecord.index → left = right

section

variable {inputs : Inputs}

theorem keyedByName_of_entries
    (named : ∀ entry ∈ inputs.entries, entry.2.name = entry.1) :
    KeyedByName inputs := by
  intro name record found
  exact named (name, record) (NameTable.mem_entries_iff.mpr found)

theorem distinctRows_of_entries
    (distinct : ∀ left ∈ inputs.entries, ∀ right ∈ inputs.entries,
      left.2.index = right.2.index → left.1 = right.1) (names : List String) :
    DistinctRows inputs names := by
  intro left _ right _ leftRecord rightRecord foundLeft foundRight sameRow
  exact distinct (left, leftRecord) (NameTable.mem_entries_iff.mpr foundLeft)
    (right, rightRecord) (NameTable.mem_entries_iff.mpr foundRight) sameRow

end

namespace Plan

variable {profile : Profile} {inputs : Inputs} {name : String} {names : List String}
  {record : InputRecord} {records : List InputRecord} {command : Command}
  {phase : Nat} {plan : Plan}

/-! ## Looking inputs up -/

theorem lookup_eq_ok_iff :
    lookup inputs name = .ok record ↔ inputs.get? name = some record := by
  rw [lookup]
  split
  next found => rw [found, Except.ok.injEq, Option.some.injEq]
  next absent =>
    rw [absent]
    constructor
    · intro impossible
      cases impossible
    · intro impossible
      cases impossible

theorem lookupAll_eq_ok_iff :
    lookupAll inputs names = .ok records ↔
      names.map inputs.get? = records.map some := by
  induction names generalizing records with
  | nil =>
      rw [lookupAll, Except.ok.injEq, List.map_nil, eq_comm (b := records.map some),
        List.map_eq_nil_iff, eq_comm]
  | cons name rest induction =>
      simp only [lookupAll, bind_eq_ok_iff, lookup_eq_ok_iff, induction]
      constructor
      · rintro ⟨record, found, others, rest, equal⟩
        cases equal
        rw [List.map_cons, List.map_cons, found, rest]
      · intro equal
        cases records with
        | nil => cases equal
        | cons record others =>
            rw [List.map_cons, List.map_cons, List.cons.injEq] at equal
            exact ⟨record, equal.1, others, equal.2, rfl⟩

theorem mem_of_lookupAll (found : lookupAll inputs names = .ok records) :
    record ∈ records ↔ ∃ name ∈ names, inputs.get? name = some record := by
  have lookups := lookupAll_eq_ok_iff.mp found
  calc record ∈ records
    _ ↔ some record ∈ records.map some := by simp
    _ ↔ some record ∈ names.map inputs.get? := by rw [lookups]
    _ ↔ ∃ name ∈ names, inputs.get? name = some record := List.mem_map

theorem exists_of_lookupAll (found : lookupAll inputs names = .ok records)
    (member : name ∈ names) : ∃ record, inputs.get? name = some record := by
  have lookups := lookupAll_eq_ok_iff.mp found
  have mapped : inputs.get? name ∈ records.map some := by
    rw [← lookups]
    exact List.mem_map_of_mem member
  rcases List.mem_map.mp mapped with ⟨record, -, equal⟩
  exact ⟨record, equal.symm⟩

theorem exists_lookupAll
    (found : ∀ name ∈ names, ∃ record, inputs.get? name = some record) :
    ∃ records, lookupAll inputs names = .ok records := by
  induction names with
  | nil => exact ⟨[], rfl⟩
  | cons name rest induction =>
      rcases found name List.mem_cons_self with ⟨record, here⟩
      have later : ∀ other ∈ rest, ∃ record, inputs.get? other = some record := by
        intro other member
        exact found other (List.mem_cons_of_mem name member)
      rcases induction later with ⟨others, foundOthers⟩
      refine ⟨record :: others, ?_⟩
      rw [lookupAll, lookup_eq_ok_iff.mpr here, foundOthers]
      rfl

/-! ## Commands for one input -/

theorem forceOn_eq_some_iff :
    forceOn record = some command ↔
      record.isForcedOn = false ∧ command = record.command .on := by
  rw [forceOn]
  cases record.isForcedOn with
  | false => simp [eq_comm]
  | true => simp

theorem clear_eq_some_iff :
    clear record = some command ↔
      (record.state ≠ .idle ∨ record.isForcedOn = true) ∧
        command = record.command .off := by
  rw [clear]
  split
  next competes => rw [Option.some.injEq, and_iff_right competes, eq_comm]
  next settled =>
    constructor
    · intro impossible
      cases impossible
    · rintro ⟨competes, -⟩
      exact absurd competes settled

theorem forceOn_eq_none_iff : forceOn record = none ↔ record.isForcedOn = true := by
  rw [forceOn]
  cases record.isForcedOn with
  | false => simp
  | true => simp

theorem clear_eq_none_iff :
    clear record = none ↔ record.state = .idle ∧ record.isForcedOn = false := by
  rw [clear, ite_eq_right_iff, imp_iff_not (Option.some_ne_none _), not_or, ne_eq,
    Decidable.not_not, Bool.not_eq_true]

theorem release_eq_some_iff :
    release record = some command ↔
      ∃ mode, releaseMode record = some mode ∧ command = record.command mode := by
  rw [release, Option.map_eq_some_iff]
  simp only [eq_comm]

/-! ## A plan that releases the override -/

theorem ofReset_eq_ok_iff :
    ofReset profile inputs = .ok plan ↔
      ∃ manual phases,
        inputs.get? profile.manual = some manual ∧
        lookupAll inputs profile.stageInputs.names = .ok phases ∧
        plan = { first := (release manual).toList
                 second := phases.filterMap release } := by
  simp only [ofReset, bind_eq_ok_iff, lookup_eq_ok_iff]
  constructor
  · rintro ⟨manual, foundManual, phases, foundPhases, equal⟩
    cases equal
    exact ⟨manual, phases, foundManual, foundPhases, rfl⟩
  · rintro ⟨manual, phases, foundManual, foundPhases, rfl⟩
    exact ⟨manual, foundManual, phases, foundPhases, rfl⟩

theorem mem_first_of_ofReset (planned : ofReset profile inputs = .ok plan) :
    command ∈ plan.first ↔
      ∃ manual, inputs.get? profile.manual = some manual ∧
        release manual = some command := by
  rcases ofReset_eq_ok_iff.mp planned with ⟨manual, phases, foundManual, -, rfl⟩
  rw [Option.mem_toList, foundManual]
  simp only [Option.some.injEq, exists_eq_left']

theorem mem_second_of_ofReset (planned : ofReset profile inputs = .ok plan) :
    command ∈ plan.second ↔
      ∃ name ∈ profile.stageInputs.names, ∃ record,
        inputs.get? name = some record ∧ release record = some command := by
  rcases ofReset_eq_ok_iff.mp planned with ⟨manual, phases, -, foundPhases, rfl⟩
  simp only [List.mem_filterMap, mem_of_lookupAll foundPhases]
  constructor
  · rintro ⟨record, ⟨name, isStage, found⟩, released⟩
    exact ⟨name, isStage, record, found, released⟩
  · rintro ⟨name, isStage, record, found, released⟩
    exact ⟨record, ⟨name, isStage, found⟩, released⟩

/-! ## A plan towards a stage -/

theorem mem_competitors_iff {target : String} :
    name ∈ competitors profile target ↔
      name ∈ profile.stageInputs.names ∧ name ≠ target := by
  simp [competitors]

theorem ofPhase_eq_ok_iff :
    ofPhase profile inputs phase = .ok plan ↔
      ∃ target others manual,
        inputs.get? (profile.phaseInput phase) = some target ∧
        lookupAll inputs (competitors profile (profile.phaseInput phase)) =
          .ok others ∧
        inputs.get? profile.manual = some manual ∧
        plan = { first := (forceOn target).toList ++ others.filterMap clear
                 second := (forceOn manual).toList } := by
  simp only [ofPhase, bind_eq_ok_iff, lookup_eq_ok_iff]
  constructor
  · rintro ⟨target, foundTarget, others, foundOthers, manual, foundManual, equal⟩
    cases equal
    exact ⟨target, others, manual, foundTarget, foundOthers, foundManual, rfl⟩
  · rintro ⟨target, others, manual, foundTarget, foundOthers, foundManual, rfl⟩
    exact ⟨target, foundTarget, others, foundOthers, manual, foundManual, rfl⟩

theorem exists_of_ofPhase (planned : ofPhase profile inputs phase = .ok plan)
    (needed : name = profile.phaseInput phase ∨ name = profile.manual ∨
      name ∈ profile.stageInputs.names) :
    ∃ record, inputs.get? name = some record := by
  rcases ofPhase_eq_ok_iff.mp planned with
    ⟨target, others, manual, foundTarget, foundOthers, foundManual, -⟩
  by_cases isTarget : name = profile.phaseInput phase
  · exact ⟨target, by rw [isTarget, foundTarget]⟩
  rcases needed with equal | isManual | isStage
  · exact absurd equal isTarget
  · exact ⟨manual, by rw [isManual, foundManual]⟩
  · exact exists_of_lookupAll foundOthers (mem_competitors_iff.mpr ⟨isStage, isTarget⟩)

theorem mem_first_of_ofPhase (planned : ofPhase profile inputs phase = .ok plan) :
    command ∈ plan.first ↔
      (∃ target, inputs.get? (profile.phaseInput phase) = some target ∧
        target.isForcedOn = false ∧ command = target.command .on) ∨
      ∃ name ∈ profile.stageInputs.names, name ≠ profile.phaseInput phase ∧
        ∃ record, inputs.get? name = some record ∧
          (record.state ≠ .idle ∨ record.isForcedOn = true) ∧
          command = record.command .off := by
  rcases ofPhase_eq_ok_iff.mp planned with
    ⟨target, others, manual, foundTarget, foundOthers, foundManual, rfl⟩
  have cleared : command ∈ others.filterMap clear ↔
      ∃ record ∈ others, clear record = some command := List.mem_filterMap
  rw [List.mem_append, Option.mem_toList, forceOn_eq_some_iff, cleared]
  simp only [mem_of_lookupAll foundOthers, mem_competitors_iff, clear_eq_some_iff]
  constructor
  · rintro (onTarget | ⟨record, ⟨name, ⟨isStage, different⟩, found⟩, competes, equal⟩)
    · exact .inl ⟨target, foundTarget, onTarget⟩
    · exact .inr ⟨name, isStage, different, record, found, competes, equal⟩
  · rintro (⟨other, foundOther, onTarget⟩ |
      ⟨name, isStage, different, record, found, competes, equal⟩)
    · rw [foundTarget, Option.some.injEq] at foundOther
      rw [foundOther]
      exact .inl onTarget
    · exact .inr ⟨record, ⟨name, ⟨isStage, different⟩, found⟩, competes, equal⟩

theorem off_mem_first (planned : ofPhase profile inputs phase = .ok plan)
    (isStage : name ∈ profile.stageInputs.names)
    (different : name ≠ profile.phaseInput phase)
    (found : inputs.get? name = some record) (forced : record.isForcedOn = true) :
    record.command .off ∈ plan.first :=
  (mem_first_of_ofPhase planned).mpr
    (.inr ⟨name, isStage, different, record, found, .inr forced, rfl⟩)

theorem mem_second_of_ofPhase (planned : ofPhase profile inputs phase = .ok plan) :
    command ∈ plan.second ↔
      ∃ manual, inputs.get? profile.manual = some manual ∧
        manual.isForcedOn = false ∧ command = manual.command .on := by
  rcases ofPhase_eq_ok_iff.mp planned with
    ⟨target, others, manual, foundTarget, foundOthers, foundManual, rfl⟩
  rw [Option.mem_toList, forceOn_eq_some_iff, foundManual]
  simp only [Option.some.injEq, exists_eq_left']

theorem off_of_ofPhase (planned : ofPhase profile inputs phase = .ok plan)
    (member : command ∈ plan.first ++ plan.second) (isOff : command.mode = .off) :
    ∃ name ∈ profile.stageInputs.names, name ≠ profile.phaseInput phase ∧
      ∃ record, inputs.get? name = some record ∧ command = record.command .off := by
  rcases List.mem_append.mp member with inFirst | inSecond
  · rcases (mem_first_of_ofPhase planned).mp inFirst with
      ⟨target, -, -, equal⟩ | ⟨name, isStage, different, record, found, -, equal⟩
    · rw [equal] at isOff
      cases isOff
    · exact ⟨name, isStage, different, record, found, equal⟩
  · rcases (mem_second_of_ofPhase planned).mp inSecond with ⟨manual, -, -, equal⟩
    rw [equal] at isOff
    cases isOff

theorem first_filter_on_of_ofPhase
    (planned : ofPhase profile inputs phase = .ok plan) {target : InputRecord}
    (foundTarget : inputs.get? (profile.phaseInput phase) = some target) :
    plan.first.filter (fun command => command.mode == .on) =
      (forceOn target).toList := by
  rcases ofPhase_eq_ok_iff.mp planned with
    ⟨other, others, manual, foundOther, foundOthers, foundManual, rfl⟩
  have same : other = target := by
    rw [foundTarget, Option.some.injEq] at foundOther
    exact foundOther.symm
  have forced : (forceOn target).toList.filter (fun command => command.mode == .on) =
      (forceOn target).toList := by
    apply List.filter_eq_self.mpr
    intro command member
    rw [Option.mem_toList, forceOn_eq_some_iff] at member
    rw [member.2]
    rfl
  have cleared : (others.filterMap clear).filter (fun command => command.mode == .on)
      = [] := by
    apply List.filter_eq_nil_iff.mpr
    intro command member
    rcases List.mem_filterMap.mp member with ⟨record, -, isCleared⟩
    rw [(clear_eq_some_iff.mp isCleared).2]
    simp [InputRecord.command]
  rw [same, List.filter_append, forced, cleared, List.append_nil]

end Plan

theorem plan_of_reset {profile : Profile} {inputs : Inputs} {stage : Stage}
    (reset : stage.number = 0) :
    plan profile inputs stage = Plan.ofReset profile inputs := by
  have isReset : stage.isReset = true := by simpa [Stage.isReset] using reset
  rw [plan, if_pos isReset]

theorem plan_of_phase {profile : Profile} {inputs : Inputs} {stage : Stage}
    (phase : stage.number ≠ 0) :
    plan profile inputs stage = Plan.ofPhase profile inputs stage.number := by
  have notReset : ¬ stage.isReset = true := by simpa [Stage.isReset] using phase
  rw [plan, if_neg notReset]

end SignalControl
