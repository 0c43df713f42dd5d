import SignalControl.Proofs.PlanCommands

namespace SignalControl

/-! When there is a plan, and what the error is if there is none. The inputs that a plan
needs are looked up in a fixed order, and the first one that is missing is the error.
Nothing else can go wrong. -/

/-! ## The first missing input -/

/-- The inputs that planning looks up, in that order. -/
def Profile.sought (profile : Profile) (stage : Stage) : List String :=
  if stage.number = 0 then profile.manual :: profile.stageInputs.names
  else profile.phaseInput stage.number ::
    ((profile.stageInputs.names.filter fun name =>
      name ≠ profile.phaseInput stage.number) ++ [profile.manual])

namespace Plan

variable {profile : Profile} {inputs : Inputs} {stage : Stage} {name : String}
  {names earlier later : List String} {record : InputRecord} {error : PlanError}
  {phase : Nat}

def missing? (inputs : Inputs) (names : List String) : Option PlanError :=
  (names.find? fun name => !inputs.contains name).map .missingInput

theorem missing?_eq_none_iff :
    missing? inputs names = none ↔ ∀ name ∈ names, inputs.contains name = true := by
  simp [missing?]

theorem lookup_eq_error_iff :
    lookup inputs name = .error error ↔
      inputs.contains name = false ∧ error = .missingInput name := by
  rw [lookup, NameTable.contains]
  cases inputs.get? name with
  | none => simp [eq_comm]
  | some record => simp

theorem exists_lookup_iff :
    (∃ record, lookup inputs name = .ok record) ↔ inputs.contains name = true := by
  simp only [lookup_eq_ok_iff, NameTable.contains_iff]

theorem exists_lookupAll_iff :
    (∃ records, lookupAll inputs names = .ok records) ↔
      ∀ name ∈ names, inputs.contains name = true := by
  simp only [NameTable.contains_iff]
  constructor
  · rintro ⟨records, found⟩ name member
    exact exists_of_lookupAll found member
  · exact exists_lookupAll

theorem missing?_nil : missing? inputs [] = none := rfl

theorem missing?_cons_eq_some_iff :
    missing? inputs (name :: names) = some error ↔
      lookup inputs name = .error error ∨
        (∃ record, lookup inputs name = .ok record) ∧ missing? inputs names = some error := by
  rw [lookup_eq_error_iff, exists_lookup_iff, missing?, List.find?_cons]
  cases inputs.contains name with
  | false => simp [eq_comm]
  | true => simp [missing?]

theorem missing?_append_eq_some_iff :
    missing? inputs (earlier ++ later) = some error ↔
      missing? inputs earlier = some error ∨
        (∃ records, lookupAll inputs earlier = .ok records) ∧
          missing? inputs later = some error := by
  rw [exists_lookupAll_iff, ← missing?_eq_none_iff, missing?, missing?, missing?,
    List.find?_append, Option.map_or, Option.or_eq_some_iff]

theorem lookupAll_eq_error_iff :
    lookupAll inputs names = .error error ↔ missing? inputs names = some error := by
  induction names with
  | nil => simp [lookupAll, missing?]
  | cons name rest induction =>
      simp only [lookupAll, bind_eq_error_iff, missing?_cons_eq_some_iff, induction,
        pure_eq_error_iff, and_false, exists_false, or_false, exists_and_right]

/-! ## Plans -/

theorem ofReset_eq_error_iff :
    ofReset profile inputs = .error error ↔
      missing? inputs (profile.manual :: profile.stageInputs.names) = some error := by
  simp only [ofReset, bind_eq_error_iff, missing?_cons_eq_some_iff,
    lookupAll_eq_error_iff, pure_eq_error_iff, and_false, exists_false, or_false,
    exists_and_right]

theorem ofPhase_eq_error_iff :
    ofPhase profile inputs phase = .error error ↔
      missing? inputs (profile.phaseInput phase ::
        (competitors profile (profile.phaseInput phase) ++ [profile.manual])) =
          some error := by
  simp only [ofPhase, bind_eq_error_iff, missing?_cons_eq_some_iff,
    missing?_append_eq_some_iff, missing?_nil, lookupAll_eq_error_iff, pure_eq_error_iff,
    and_false, exists_false, or_false, exists_and_right, reduceCtorEq]

theorem exists_of_missing? (missing : missing? inputs names = some error) :
    ∃ name ∈ names, inputs.contains name = false ∧ error = .missingInput name := by
  rcases Option.map_eq_some_iff.mp missing with ⟨name, found, rfl⟩
  have absent := List.find?_some (p := fun name => !inputs.contains name) found
  rw [Bool.not_eq_true'] at absent
  exact ⟨name, List.mem_of_find?_eq_some found, absent, rfl⟩

end Plan

section

variable {profile : Profile} {inputs : Inputs} {stage : Stage} {name : String}
  {error : PlanError}

theorem plan_eq_error_iff :
    plan profile inputs stage = .error error ↔
      Plan.missing? inputs (profile.sought stage) = some error := by
  rw [Profile.sought]
  split
  next reset => rw [plan_of_reset reset, Plan.ofReset_eq_error_iff]
  next phase =>
    rw [plan_of_phase phase, Plan.ofPhase_eq_error_iff]
    exact Iff.rfl

theorem exists_plan_iff :
    (∃ made, plan profile inputs stage = .ok made) ↔
      ∀ name ∈ profile.sought stage, inputs.contains name = true := by
  rw [← Plan.missing?_eq_none_iff, Option.eq_none_iff_forall_ne_some]
  simp only [ne_eq, ← plan_eq_error_iff]
  cases plan profile inputs stage with
  | error error => simp
  | ok made => simp

theorem exists_plan_error_iff :
    (∃ error, plan profile inputs stage = .error error) ↔
      ∃ name ∈ profile.sought stage, inputs.contains name = false := by
  constructor
  · rintro ⟨error, failed⟩
    rcases Plan.exists_of_missing? (plan_eq_error_iff.mp failed) with
      ⟨name, isSought, absent, -⟩
    exact ⟨name, isSought, absent⟩
  · rintro ⟨name, isSought, absent⟩
    cases planned : plan profile inputs stage with
    | error error => exact ⟨error, rfl⟩
    | ok made =>
        have present := exists_plan_iff.mp ⟨made, planned⟩ name isSought
        rw [absent] at present
        cases present

end

end SignalControl
