import SignalControl.Proofs.CommandEffect
import SignalControl.Proofs.OverrideBatch

namespace SignalControl

/-! What a reset makes of the manual override. The first batch of its plan applies
the release rule to the override, and that rule leaves an input alone that is idle
although it is forced on. -/

/-- The release rule takes every input from being forced on, except an idle one, and
forces none on. -/
theorem isForcedOn_after_release (record : InputRecord) :
    (record.after (Plan.release record).toList).isForcedOn = true ↔
      record.state = .idle ∧ record.isForcedOn = true := by
  simp only [InputRecord.isForcedOn, InputRecord.mode_after_release, Plan.releaseMode,
    beq_iff_eq]
  cases record.state with
  | idle => cases record.mode <;> simp
  | active => cases record.mode <;> simp

/-- Once the first batch of a reset was carried out, the manual override is still
forced on exactly if it was idle and forced on before. -/
theorem override_after_reset_iff {profile : Profile} {inputs : Inputs} {made : Plan}
    (planned : plan profile inputs Stage.reset = .ok made) :
    ∃ before after, inputs.get? profile.manual = some before ∧
      (inputs.after made.first).get? profile.manual = some after ∧
      (after.isForcedOn = true ↔ before.state = .idle ∧ before.isForcedOn = true) := by
  rw [plan_of_reset rfl] at planned
  rcases Plan.ofReset_eq_ok_iff.mp planned with ⟨manual, phases, found, -, rfl⟩
  refine ⟨manual, manual.after (Plan.release manual).toList, found, ?_,
    isForcedOn_after_release manual⟩
  rw [Inputs.get?_after, found, Option.map_some]

/-! ## An override that is held

The override is forced on, and reads as active or still as idle. -/

def heldInputs (state : InputState) : Inputs :=
  NameTable.ofList
    [("M", .shown 0 "M" state .on), ("P3", .shown 1 "P3" .idle .flashing),
      ("P4", .shown 2 "P4" .idle .flashing)]

/-- An active override is released. -/
theorem active_override_released :
    ∃ made after, plan (pairProfile "M") (heldInputs .active) Stage.reset = .ok made ∧
      ((heldInputs .active).after made.first).get? "M" = some after ∧
      after.isForcedOn = false := by
  have planned : plan (pairProfile "M") (heldInputs .active) Stage.reset =
      .ok { first := [⟨"M", 0, .flashing⟩], second := [] } := rfl
  rcases override_after_reset_iff planned with ⟨before, after, found, foundAfter, held⟩
  refine ⟨_, after, planned, foundAfter, ?_⟩
  rw [Bool.eq_false_iff, ne_eq, held]
  rintro ⟨idle, -⟩
  have isManual : before = .shown 0 "M" .active .on := Option.some.inj found.symm
  rw [isManual] at idle
  cases idle

/-- An idle override stays forced on, for the plan has no command for it. -/
theorem idle_override_kept :
    ∃ made, Profile.ofDescription (pairDescription "M") = .ok (pairProfile "M") ∧
      (pairProfile "M").manual ∉ (pairProfile "M").stageInputs.names ∧
      Planned (pairProfile "M") Stage.reset (heldInputs .idle) made ∧
      ∃ after, ((heldInputs .idle).after made.first).get? (pairProfile "M").manual =
        some after ∧ after.isForcedOn = true := by
  refine ⟨{ first := [], second := [] }, rfl, by decide, ?_, .shown 0 "M" .idle .on,
    rfl, rfl⟩
  exact
    { keyed := keyedByName_of_entries (by decide)
      distinct := distinctRows_of_entries (by decide) _
      planned := rfl }

end SignalControl
