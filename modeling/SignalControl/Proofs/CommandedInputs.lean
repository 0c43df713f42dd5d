import Mathlib.Data.List.Forall2
import SignalControl.Proofs.PlanCommands

namespace SignalControl

/-! Which inputs a batch sets. The commands of a batch are for inputs that were looked
up, in the order in which they were, and for each of them at most once. -/

def Batch.Sets (batch : Batch) (inputs : Inputs) (commanded : List String) : Prop :=
  List.Forall₂
    (fun name command => ∃ record mode, inputs.get? name = some record ∧
      command = record.command mode)
    commanded batch

def CommandsOwn (rule : InputRecord → Option Command) : Prop :=
  ∀ record command, rule record = some command → ∃ mode, command = record.command mode

section

variable {inputs : Inputs} {name : String} {names commanded others : List String}
  {record : InputRecord} {records : List InputRecord} {command : Command}
  {batch later : Batch} {rule : InputRecord → Option Command}

theorem commandsOwn_release : CommandsOwn Plan.release := by
  intro record command released
  rcases Plan.release_eq_some_iff.mp released with ⟨mode, -, equal⟩
  exact ⟨mode, equal⟩

theorem commandsOwn_forceOn : CommandsOwn Plan.forceOn := by
  intro record command forced
  exact ⟨.on, (Plan.forceOn_eq_some_iff.mp forced).2⟩

theorem commandsOwn_clear : CommandsOwn Plan.clear := by
  intro record command cleared
  exact ⟨.off, (Plan.clear_eq_some_iff.mp cleared).2⟩

theorem CommandsOwn.index_eq (own : CommandsOwn rule) (chosen : rule record = some command) :
    command.index = record.index := by
  rcases own record command chosen with ⟨mode, rfl⟩
  rfl

namespace Batch

theorem Sets.append (first : batch.Sets inputs commanded)
    (second : later.Sets inputs others) :
    Batch.Sets (batch ++ later) inputs (commanded ++ others) :=
  List.rel_append first second

theorem Sets.exists_of_mem (sets : batch.Sets inputs commanded)
    (member : command ∈ batch) :
    ∃ name record mode, inputs.get? name = some record ∧
      command = record.command mode := by
  rw [Sets] at sets
  induction sets with
  | nil => cases member
  | @cons name first names rest set sets induction =>
      rcases List.mem_cons.mp member with here | later
      · exact ⟨name, by rw [here]; exact set⟩
      · exact induction later

theorem Sets.map_input (keyed : KeyedByName inputs) (sets : batch.Sets inputs commanded) :
    batch.map Command.input = commanded := by
  rw [Sets] at sets
  induction sets with
  | nil => rfl
  | cons set sets induction =>
      rcases set with ⟨record, mode, found, rfl⟩
      rw [List.map_cons, induction]
      exact congrArg (· :: _) (keyed _ record found)

theorem sets_toList (own : CommandsOwn rule) (found : inputs.get? name = some record) :
    ∃ commanded, commanded.Sublist [name] ∧
      Batch.Sets (rule record).toList inputs commanded := by
  cases chosen : rule record with
  | none => exact ⟨[], List.nil_sublist _, .nil⟩
  | some command =>
      rcases own record command chosen with ⟨mode, equal⟩
      exact ⟨[name], List.Sublist.refl _, .cons ⟨record, mode, found, equal⟩ .nil⟩

theorem sets_filterMap (own : CommandsOwn rule)
    (found : Plan.lookupAll inputs names = .ok records) :
    ∃ commanded, commanded.Sublist names ∧
      Batch.Sets (records.filterMap rule) inputs commanded := by
  rw [Plan.lookupAll_eq_ok_iff] at found
  induction names generalizing records with
  | nil =>
      have none : records = [] := List.map_eq_nil_iff.mp found.symm
      rw [none]
      exact ⟨[], List.Sublist.refl _, .nil⟩
  | cons name rest induction =>
      cases records with
      | nil => cases found
      | cons record others =>
          rw [List.map_cons, List.map_cons, List.cons.injEq] at found
          rcases sets_toList own found.1 with ⟨first, ofName, setsFirst⟩
          rcases induction found.2 with ⟨later, ofRest, setsLater⟩
          have batch : (record :: others).filterMap rule =
              (rule record).toList ++ others.filterMap rule := by
            rw [List.filterMap_cons]
            cases rule record with
            | none => rfl
            | some command => rfl
          rw [batch]
          exact ⟨first ++ later, ofName.append ofRest, setsFirst.append setsLater⟩

end Batch

end

/-! ## The batches of a plan -/

section

variable {profile : Profile} {inputs : Inputs} {stage : Stage} {made : Plan}
  {batch : Batch}

theorem exists_sets_of_plan (planned : plan profile inputs stage = .ok made)
    (member : batch ∈ made.batches) :
    ∃ commanded : List String, commanded.Nodup ∧ batch.Sets inputs commanded := by
  by_cases reset : stage.number = 0
  · rw [plan_of_reset reset] at planned
    rcases Plan.ofReset_eq_ok_iff.mp planned with ⟨manual, phases, found, foundPhases, rfl⟩
    rcases Batch.sets_toList commandsOwn_release found with ⟨override, ofManual, sets⟩
    rcases Batch.sets_filterMap commandsOwn_release foundPhases with
      ⟨released, ofPhases, setsPhases⟩
    simp only [Plan.batches, List.mem_cons, List.not_mem_nil, or_false] at member
    rcases member with rfl | rfl
    · exact ⟨override, ofManual.nodup (List.pairwise_singleton _ _), sets⟩
    · exact ⟨released, ofPhases.nodup profile.stageInputs.names_nodup, setsPhases⟩
  · rw [plan_of_phase reset] at planned
    rcases Plan.ofPhase_eq_ok_iff.mp planned with
      ⟨target, others, manual, foundTarget, foundOthers, foundManual, rfl⟩
    rcases Batch.sets_toList commandsOwn_forceOn foundTarget with
      ⟨forced, ofTarget, setsTarget⟩
    rcases Batch.sets_filterMap commandsOwn_clear foundOthers with
      ⟨cleared, ofOthers, setsOthers⟩
    rcases Batch.sets_toList commandsOwn_forceOn foundManual with
      ⟨override, ofManual, setsManual⟩
    simp only [Plan.batches, List.mem_cons, List.not_mem_nil, or_false] at member
    rcases member with rfl | rfl
    · refine ⟨forced ++ cleared, ?_, setsTarget.append setsOthers⟩
      apply (ofTarget.append ofOthers).nodup
      have apart : profile.phaseInput stage.number ∉
          Plan.competitors profile (profile.phaseInput stage.number) := by
        intro competes
        exact (Plan.mem_competitors_iff.mp competes).2 rfl
      exact List.nodup_cons.mpr ⟨apart, profile.stageInputs.names_nodup.filter _⟩
    · exact ⟨override, ofManual.nodup (List.pairwise_singleton _ _), setsManual⟩

end

end SignalControl
