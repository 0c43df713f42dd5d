import Mathlib.Data.List.Nodup
import Mathlib.Data.List.Perm.Subperm
import SignalControl.Page.Plain
import SignalControl.Proofs.CommandEncoding
import SignalControl.Proofs.CommandedInputs
import SignalControl.Proofs.InputsGrammar
import SignalControl.Proofs.OverrideBatch
import SignalControl.Proofs.StageOutcome

namespace SignalControl

/-! What the names in a fault list stand for. Commands are settled by name, so it matters
that a name is that of one command. It is, within one batch: a batch sets no input
twice, the inputs of a page have names of their own, and a command's name gives back the
name of its input. -/

/-! ## Inputs of a plain page -/

/-- What the parser for inputs accepts is a page of inputs, each stored under the name in
its row. -/
theorem PlainPage.exists_inputs_of_parseInputs {text : String} {page : Page}
    (read : parseInputs text = .ok page) :
    ∃ inputs, page = .inputs inputs ∧ KeyedByName inputs := by
  rcases parseInputs_eq_ok_iff.mp read with ⟨-, records, inputs, -, isPage, keepsLast⟩
  refine ⟨inputs, isPage, ?_⟩
  intro name record found
  rcases (keepsLast name record).mp found with ⟨_, _, _, named, _⟩
  exact named

/-! ## Names within a batch -/

/-- Every command of the batch sets an input of the map and is named for that input and
for the mode, and no two of them have one name. -/
structure Batch.NamedApart (batch : Batch) (inputs : Inputs)
    (fieldPrefix : String) : Prop where
  named : ∀ command ∈ batch, ∃ record mode, inputs.get? record.name = some record ∧
    command = record.command mode ∧
    (command.payload fieldPrefix).name = record.name ++ "=" ++ mode.mark
  distinct : ((batch.map (Command.payload fieldPrefix)).map Payload.name).Nodup

section

variable {profile : Profile} {inputs : Inputs} {stage : Stage} {made : Plan}
  {batch : Batch}

theorem Batch.map_name_payload (batch : Batch) (fieldPrefix : String) :
    (batch.map (Command.payload fieldPrefix)).map Payload.name =
      batch.map Command.name := by
  rw [List.map_map]
  exact List.map_congr_left fun command _ => command.payload_name fieldPrefix

theorem Batch.Sets.namedApart {commanded : List String} (keyed : KeyedByName inputs)
    (sets : batch.Sets inputs commanded) (once : commanded.Nodup)
    (fieldPrefix : String) : batch.NamedApart inputs fieldPrefix where
  named := by
    intro command member
    rcases sets.exists_of_mem member with ⟨name, record, mode, found, rfl⟩
    have own := keyed name record found
    exact ⟨record, mode, own ▸ found, rfl, rfl⟩
  distinct := by
    rw [← sets.map_input keyed, List.Nodup, List.pairwise_map] at once
    rw [batch.map_name_payload, List.Nodup, List.pairwise_map]
    apply once.imp
    intro left right differentInputs sameName
    exact differentInputs (Actuator.display_eq_iff.mp sameName).1

theorem namedApart_of_plan (keyed : KeyedByName inputs)
    (planned : plan profile inputs stage = .ok made) (member : batch ∈ made.batches)
    (fieldPrefix : String) : batch.NamedApart inputs fieldPrefix := by
  rcases exists_sets_of_plan planned member with ⟨commanded, once, sets⟩
  exact sets.namedApart keyed once fieldPrefix

end

/-! ## Fault lists -/

/-- Every fault is the name of exactly one payload of the batch, and is listed once. -/
structure Batch.Identifies (batch : Batch) (fieldPrefix : String)
    (faults : List String) : Prop where
  once : faults.Nodup
  payload : ∀ fault ∈ faults, ∃! payload,
    payload ∈ batch.map (Command.payload fieldPrefix) ∧ payload.name = fault

section

variable {controller : Controller} {batch : Batch} {rounds : List Round}
  {faults : List String} {inputs : Inputs} {plan : Plan}

theorem Round.faults_subperm (round : Round)
    (each : batch.length = round.calls.length) :
    (round.faults batch).Subperm (batch.map Command.name) := by
  have answered : (round.completion.answered batch).map (fun settled => settled.1.name) =
      batch.map Command.name := by
    rw [← round.completion.map_fst_answered each, List.map_map,
      round.completion.map_fst_answered each]
    rfl
  rw [← answered]
  exact (round.faults_perm each).subperm.trans
    ((List.filter_sublist).map _).subperm

theorem Exhausted.faults_subperm
    (exhausted : Exhausted controller batch rounds faults) :
    faults.Subperm (batch.map Command.name) := by
  rcases exhausted.lastFaults with ⟨last, isLast, rfl⟩
  apply last.faults_subperm
  rw [exhausted.sent.whole last (List.mem_of_getLast? isLast), List.length_map]

theorem Batch.NamedApart.identifies {fieldPrefix : String}
    (apart : batch.NamedApart inputs fieldPrefix)
    (among : faults.Subperm (batch.map Command.name)) :
    batch.Identifies fieldPrefix faults where
  once := by
    have distinct := apart.distinct
    rw [batch.map_name_payload] at distinct
    rcases among with ⟨listed, reordered, sublist⟩
    exact reordered.nodup_iff.mp (sublist.nodup distinct)
  payload := by
    intro fault member
    rcases List.mem_map.mp (among.subset member) with ⟨command, inBatch, rfl⟩
    refine ⟨command.payload fieldPrefix, ⟨List.mem_map_of_mem inBatch, rfl⟩, ?_⟩
    rintro other ⟨isPayload, sameName⟩
    exact List.inj_on_of_nodup_map apart.distinct isPayload (List.mem_map_of_mem inBatch)
      sameName

/-- The batch of a plan that was exhausted, which is the last one that was sent. -/
theorem PlanExhausted.exists_batch
    (exhausted : PlanExhausted controller plan rounds faults) :
    ∃ batch ∈ plan.batches, ∃ last, last <:+ rounds ∧
      Exhausted controller batch last faults := by
  rcases exhausted with first | ⟨firstRounds, secondRounds, rfl, -, second⟩
  · exact ⟨plan.first, by simp [Plan.batches], rounds, List.suffix_refl _, first⟩
  · exact ⟨plan.second, by simp [Plan.batches], secondRounds, List.suffix_append _ _,
      second⟩

end

/-- A rejected change has sent a batch of its plan in vain, and reports faults of it. -/
theorem Controller.exists_exhausted_of_rejected {State : Type} (controller : Controller)
    (link : Link State) (device : State) {inputs : Inputs} {stage : Stage} {made : Plan}
    {faults : List String}
    (reads : (controller.poll link device).ReadsInputs controller inputs)
    (planned : plan controller.profile inputs stage = .ok made)
    (rejected : (controller.setStage link stage.number device).outcome.2 =
      .error (.rejected faults)) :
    ∃ batch ∈ made.batches, ∃ last,
      last <:+ (controller.setStage link stage.number device).rounds ∧
      Exhausted controller batch last faults := by
  have run := controller.setStage_run link stage.number device
  rcases (run.rejected_iff faults).mp rejected with
    ⟨other, poll, sent, plan, number, rounds, leads, exhausted⟩
  rcases controller.exists_setStage_rounds link stage device with ⟨sentHere, roundsHere⟩
  have sameStage : other = stage := Stage.eq_of_number_eq (by omega)
  have samePoll : poll = controller.poll link device :=
    (List.cons.inj (rounds.symm.trans roundsHere)).1
  subst sameStage samePoll
  have samePlan : plan = made := leads.unique ⟨inputs, reads, planned⟩
  subst samePlan
  rcases exhausted.exists_batch with ⟨batch, member, last, atEnd, exhausted⟩
  refine ⟨batch, member, last, ?_, exhausted⟩
  rw [rounds]
  exact atEnd.trans (List.suffix_cons _ _)

/-- The commands planned from a plain page are told apart by their names, within each
batch, whatever the names of the inputs contain. So whatever is listed as a fault of a
change that read the page is one command of the batch that was exhausted. -/
theorem faults_identify_commands {text : String} {page : Page}
    (read : PlainPage.parseInputs text = .ok page) :
    ∃ inputs, page = .inputs inputs ∧ KeyedByName inputs ∧
      ∀ profile stage made, plan profile inputs stage = .ok made →
        (∀ batch ∈ made.batches, batch.NamedApart inputs profile.fieldPrefix) ∧
        ∀ {State : Type} (controller : Controller) (link : Link State) (device : State)
          (faults : List String), controller.profile = profile →
          (controller.poll link device).ReadsInputs controller inputs →
          (controller.setStage link stage.number device).outcome.2 =
            .error (.rejected faults) →
          ∃ batch ∈ made.batches, batch.Identifies profile.fieldPrefix faults ∧
            ∃ last, last <:+ (controller.setStage link stage.number device).rounds ∧
              Exhausted controller batch last faults := by
  rcases PlainPage.exists_inputs_of_parseInputs read with ⟨inputs, rfl, keyed⟩
  refine ⟨inputs, rfl, keyed, ?_⟩
  intro profile stage made planned
  have apart : ∀ batch ∈ made.batches, batch.NamedApart inputs profile.fieldPrefix :=
    fun batch member => namedApart_of_plan keyed planned member profile.fieldPrefix
  refine ⟨apart, ?_⟩
  intro State controller link device faults ofProfile reads rejected
  subst ofProfile
  rcases controller.exists_exhausted_of_rejected link device reads planned rejected with
    ⟨batch, member, last, atEnd, exhausted⟩
  exact ⟨batch, member, (apart batch member).identifies exhausted.faults_subperm,
    last, atEnd, exhausted⟩

/-! ## A page with names like marks

The manual override has no name, and those of the phase inputs have separators and a
mark. The device answers every call with the page, which is no acceptance. -/

def markedPage : String := "0;1;;0;0;-\n1;2;P=ВКЛ1;1;0;-\n2;3;P=4;0;0;-"

def markedInputs : Inputs :=
  NameTable.ofList
    [("", .shown 0 "" .idle .flashing), ("P=ВКЛ1", .shown 1 "P=ВКЛ1" .active .flashing),
      ("P=4", .shown 2 "P=4" .idle .flashing)]

def markedController : Controller where
  address := "marked"
  profile :=
    { inputs := Profile.inputSet ["", "P=ВКЛ1", "P=4"]
      stageInputs := NameTable.ofList [("P=ВКЛ1", 1), ("P=4", 4)]
      manual := ""
      phasePrefix := "P="
      fieldPrefix := "R"
      credentials := ⟨"", ""⟩ }
  parsers := PlainPage.parsers

def markedStage : Stage := { number := 4 }

def markedLink : Link Unit where
  exchange := fun _ _ =>
    (.inOrder (Vector.replicate _ (.response Http.ok (.ok markedPage))), ())

def markedPlan : Plan where
  first := [⟨"P=4", 2, .on⟩, ⟨"P=ВКЛ1", 1, .off⟩]
  second := [⟨"", 0, .on⟩]

/-- Both commands of the first batch are listed as faults, each under a name of its
own. -/
theorem marked_faults_identify :
    KeyedByName markedInputs ∧
      (∀ batch ∈ markedPlan.batches, batch.NamedApart markedInputs "R") ∧
      ∃ batch ∈ markedPlan.batches,
        batch.Identifies "R" ["P=4=ВКЛ", "P=ВКЛ1=ВЫКЛ"] := by
  have read : PlainPage.parseInputs markedPage = .ok (.inputs markedInputs) := rfl
  have planned : plan markedController.profile markedInputs markedStage =
      .ok markedPlan := rfl
  have reads : (markedController.poll markedLink ()).ReadsInputs markedController
      markedInputs := ⟨markedPage, rfl, read⟩
  have rejected : (markedController.setStage markedLink markedStage.number ()).outcome.2 =
      .error (.rejected ["P=4=ВКЛ", "P=ВКЛ1=ВЫКЛ"]) := by decide +kernel
  rcases faults_identify_commands read with ⟨inputs, same, keyed, plans⟩
  cases same
  rcases plans _ _ _ planned with ⟨apart, changes⟩
  rcases changes markedController markedLink () _ rfl reads rejected with
    ⟨batch, member, identifies, -⟩
  exact ⟨keyed, apart, batch, member, identifies⟩

end SignalControl
