import SignalControl.Proofs.PhaseEffect

namespace SignalControl

/-! A stage is reached when planning for it finds nothing to do. That depends on the
override and the phase inputs alone, and carrying out any plan leads there. -/

structure Reached (profile : Profile) (phase : Nat) (inputs : Inputs) : Prop where
  target : ∃ record, inputs.get? (profile.phaseInput phase) = some record ∧
    record.isForcedOn = true
  override : ∃ record, inputs.get? profile.manual = some record ∧
    record.isForcedOn = true
  others : ∀ name ∈ profile.stageInputs.names, name ≠ profile.phaseInput phase →
    ∃ record, inputs.get? name = some record ∧ record.state = .idle ∧
      record.isForcedOn = false

def Plan.nothing : Plan := { first := [], second := [] }

section

variable {profile : Profile} {inputs : Inputs} {stage : Stage} {made : Plan}

/-! ## Nothing to do -/

theorem Plan.eq_nothing_iff (phase : stage.number ≠ 0) :
    made = .nothing ↔
      made.phaseBatch stage = [] ∧ made.overrideBatch stage = [] := by
  rw [phaseBatch, overrideBatch, if_neg phase, if_neg phase]
  cases made
  rw [nothing, Plan.mk.injEq]

theorem eq_nothing_iff_reached (phase : stage.number ≠ 0)
    (planned : plan profile inputs stage = .ok made) :
    made = .nothing ↔ Reached profile stage.number inputs := by
  rw [Plan.eq_nothing_iff phase, (Plan.phaseBatch_chooses planned).eq_nil_iff,
    (Plan.overrideBatch_chooses planned).eq_nil_iff]
  rw [plan_of_phase phase] at planned
  constructor
  · rintro ⟨noPhase, noOverride⟩
    constructor
    case target =>
      rcases Plan.exists_of_ofPhase planned (.inl rfl) with ⟨target, found⟩
      have forced := noPhase _ target found
      rw [Plan.phaseChoice?_target phase, Plan.forceOn_eq_none_iff] at forced
      exact ⟨target, found, forced⟩
    case override =>
      rcases Plan.exists_of_ofPhase planned (.inr (.inl rfl)) with ⟨manual, found⟩
      have forced := noOverride _ manual found
      rw [Plan.overrideChoice?_manual phase, Plan.forceOn_eq_none_iff] at forced
      exact ⟨manual, found, forced⟩
    case others =>
      intro name isStage different
      rcases Plan.exists_of_ofPhase planned (.inr (.inr isStage)) with ⟨record, found⟩
      have settled := noPhase name record found
      rw [Plan.phaseChoice?_competitor phase isStage different,
        Plan.clear_eq_none_iff] at settled
      exact ⟨record, found, settled⟩
  · intro reached
    constructor
    · intro name record found
      by_cases isTarget : name = profile.phaseInput stage.number
      · rcases reached.target with ⟨target, foundTarget, forced⟩
        rw [isTarget, foundTarget, Option.some.injEq] at found
        rw [isTarget, Plan.phaseChoice?_target phase, Plan.forceOn_eq_none_iff, ← found]
        exact forced
      · by_cases isStage : name ∈ profile.stageInputs.names
        · rcases reached.others name isStage isTarget with ⟨other, foundOther, settled⟩
          rw [foundOther, Option.some.injEq] at found
          rw [Plan.phaseChoice?_competitor phase isStage isTarget, Plan.clear_eq_none_iff,
            ← found]
          exact settled
        · exact Plan.phaseChoice?_apart phase isStage isTarget
    · intro name record found
      by_cases isManual : name = profile.manual
      · rcases reached.override with ⟨manual, foundManual, forced⟩
        rw [isManual, foundManual, Option.some.injEq] at found
        rw [isManual, Plan.overrideChoice?_manual phase, Plan.forceOn_eq_none_iff, ← found]
        exact forced
      · exact Plan.overrideChoice?_other isManual

theorem Reached.exists_plan (reached : Reached profile stage.number inputs)
    (phase : stage.number ≠ 0) : ∃ made, plan profile inputs stage = .ok made := by
  apply SignalControl.exists_plan
  intro name isNeeded
  rw [Profile.mem_needed_iff, Profile.phaseNames, if_neg phase, List.mem_cons]
    at isNeeded
  by_cases isTarget : name = profile.phaseInput stage.number
  · rcases reached.target with ⟨record, found, -⟩
    exact ⟨record, by rw [isTarget, found]⟩
  · rcases isNeeded with isManual | target | isStage
    · rcases reached.override with ⟨record, found, -⟩
      exact ⟨record, by rw [isManual, found]⟩
    · exact absurd target isTarget
    · rcases reached.others name isStage isTarget with ⟨record, found, -⟩
      exact ⟨record, found⟩

theorem plan_eq_nothing_iff_reached (phase : stage.number ≠ 0) :
    plan profile inputs stage = .ok .nothing ↔
      Reached profile stage.number inputs := by
  constructor
  · intro planned
    exact (eq_nothing_iff_reached phase planned).mp rfl
  · intro reached
    rcases reached.exists_plan phase with ⟨made, planned⟩
    rw [planned, (eq_nothing_iff_reached phase planned).mpr reached]

/-! ## All that there is to do -/

def Plan.choice? (profile : Profile) (stage : Stage) (name : String)
    (record : InputRecord) : Option Command :=
  if name = profile.manual then overrideCommand? stage record
  else phaseChoice? profile stage name record

/-- The override and the target may be one input, for both batches then force it
on. -/
theorem Plan.phaseChoice?_manual (phase : stage.number ≠ 0)
    (manualApart : profile.manual ∈ profile.stageInputs.names →
      profile.manual = profile.phaseInput stage.number) {record : InputRecord}
    {command : Command}
    (chosen : phaseChoice? profile stage profile.manual record = some command) :
    overrideCommand? stage record = some command := by
  by_cases isTarget : profile.manual = profile.phaseInput stage.number
  · rw [isTarget, phaseChoice?_target phase] at chosen
    rw [overrideCommand?, if_neg phase]
    exact chosen
  · rw [phaseChoice?_apart phase (mt manualApart isTarget) isTarget] at chosen
    cases chosen

theorem Plan.all_chooses (phase : stage.number ≠ 0)
    (manualApart : profile.manual ∈ profile.stageInputs.names →
      profile.manual = profile.phaseInput stage.number)
    (planned : plan profile inputs stage = .ok made) :
    (made.first ++ made.second : Batch).Chooses inputs (choice? profile stage) := by
  have first := phaseBatch_chooses planned
  have second := overrideBatch_chooses planned
  rw [phaseBatch, if_neg phase] at first
  rw [overrideBatch, if_neg phase] at second
  apply first.append second
  intro name record command
  rw [choice?, overrideChoice?]
  by_cases isManual : name = profile.manual
  · rw [if_pos isManual, if_pos isManual]
    constructor
    · exact .inr
    · rintro (ofPhase | ofOverride)
      · rw [isManual] at ofPhase
        exact phaseChoice?_manual phase manualApart ofPhase
      · exact ofOverride
  · rw [if_neg isManual, if_neg isManual]
    simp

end

theorem InputRecord.isForcedOn_answered_forceOn (reaction : Reaction)
    (record : InputRecord) :
    (record.answered reaction (Plan.forceOn record)).isForcedOn = true := by
  rw [Plan.forceOn]
  cases forced : record.isForcedOn with
  | true => exact forced
  | false =>
      rw [if_neg (by decide), answered, isForcedOn, reaction.mode_react]
      rfl

/-- An input that competed does no more, once its level has followed. -/
theorem InputRecord.answered_clear (record : InputRecord) :
    (record.answered .level (Plan.clear record)).state = .idle ∧
      (record.answered .level (Plan.clear record)).isForcedOn = false := by
  rw [Plan.clear]
  split
  next => exact ⟨rfl, rfl⟩
  next settled =>
    rw [not_or, not_not, Bool.not_eq_true] at settled
    exact settled

section

variable {profile : Profile} {inputs : Inputs} {stage : Stage} {made : Plan}

theorem reached_posted (phase : stage.number ≠ 0)
    (manualApart : profile.manual ∈ profile.stageInputs.names →
      profile.manual = profile.phaseInput stage.number)
    (distinct : DistinctRows inputs inputs.names)
    (planned : plan profile inputs stage = .ok made) {order : Batch}
    (reordered : order.Perm (made.first ++ made.second)) :
    Reached profile stage.number
      (inputs.posted .level profile.fieldPrefix order) := by
  have each := (Plan.all_chooses phase manualApart planned).get?_posted .level distinct
    reordered profile.fieldPrefix
  have ofOverride : ∀ record,
      Plan.choice? profile stage profile.manual record = Plan.forceOn record := by
    intro record
    rw [Plan.choice?, if_pos rfl, Plan.overrideCommand?, if_neg phase]
  rw [plan_of_phase phase] at planned
  constructor
  case target =>
    rcases Plan.exists_of_ofPhase planned (.inl rfl) with ⟨target, found⟩
    have ofTarget : Plan.choice? profile stage (profile.phaseInput stage.number) target =
        Plan.forceOn target := by
      by_cases isManual : profile.phaseInput stage.number = profile.manual
      · rw [isManual, ofOverride]
      · rw [Plan.choice?, if_neg isManual, Plan.phaseChoice?_target phase]
    rw [each, found, Option.map_some, ofTarget]
    exact ⟨_, rfl, target.isForcedOn_answered_forceOn .level⟩
  case override =>
    rcases Plan.exists_of_ofPhase planned (.inr (.inl rfl)) with ⟨manual, found⟩
    rw [each, found, Option.map_some, ofOverride]
    exact ⟨_, rfl, manual.isForcedOn_answered_forceOn .level⟩
  case others =>
    intro name isStage different
    rcases Plan.exists_of_ofPhase planned (.inr (.inr isStage)) with ⟨record, found⟩
    have notManual : name ≠ profile.manual := by
      intro isManual
      rw [isManual] at isStage different
      exact different (manualApart isStage)
    rw [each, found, Option.map_some, Plan.choice?, if_neg notManual,
      Plan.phaseChoice?_competitor phase isStage different]
    exact ⟨_, rfl, record.answered_clear⟩

/-- Planning for a stage finds nothing to do exactly if the stage is reached. Once the
commands of any plan for it were carried out, in any order and with the levels
following, it is. -/
theorem plan_nothing_iff_reached (phase : stage.number ≠ 0)
    (manualApart : profile.manual ∈ profile.stageInputs.names →
      profile.manual = profile.phaseInput stage.number)
    (distinct : DistinctRows inputs inputs.names) :
    (plan profile inputs stage = .ok .nothing ↔ Reached profile stage.number inputs) ∧
    ∀ made, plan profile inputs stage = .ok made →
      ∀ order : Batch, order.Perm (made.first ++ made.second) →
        plan profile (inputs.posted .level profile.fieldPrefix order) stage =
          .ok .nothing := by
  refine ⟨plan_eq_nothing_iff_reached phase, ?_⟩
  intro made planned order reordered
  exact (plan_eq_nothing_iff_reached phase).mpr
    (reached_posted phase manualApart distinct planned reordered)

end

/-- Where the target is the override as well, both batches force it on, and then the
stage is reached. -/
theorem pair_plan_nothing :
    ∃ made, plan (pairProfile "P3") pairInputs pairStage = .ok made ∧
      made.first = [⟨"P3", 1, .on⟩, ⟨"P4", 2, .off⟩] ∧
      made.second = [⟨"P3", 1, .on⟩] ∧
      ¬ Reached (pairProfile "P3") 3 pairInputs ∧
      plan (pairProfile "P3")
          (pairInputs.posted .level "R" (made.first ++ made.second).reverse) pairStage =
        .ok .nothing := by
  have planned : plan (pairProfile "P3") pairInputs pairStage =
      .ok { first := [⟨"P3", 1, .on⟩, ⟨"P4", 2, .off⟩], second := [⟨"P3", 1, .on⟩] } :=
    rfl
  have phase : pairStage.number ≠ 0 := by decide
  have isTarget : (pairProfile "P3").manual =
      (pairProfile "P3").phaseInput pairStage.number := rfl
  have distinct : DistinctRows pairInputs pairInputs.names :=
    distinctRows_of_entries (by decide) _
  rcases plan_nothing_iff_reached phase (fun _ => isTarget) distinct with
    ⟨nothing, carriedOut⟩
  refine ⟨_, planned, rfl, rfl, ?_, carriedOut _ planned _ (List.reverse_perm _)⟩
  intro reached
  rw [nothing.mpr reached] at planned
  cases planned

end SignalControl
