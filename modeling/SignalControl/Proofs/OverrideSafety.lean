import SignalControl.Page.Plain
import SignalControl.Proofs.Panel
import SignalControl.Proofs.PlanCommands
import SignalControl.Proofs.StageOutcome

namespace SignalControl

/-! Whatever a device does with the commands of a stage change, the manual override
is never forced on beside a phase that is not the requested one. Until the first
batch is committed, nothing sets the override. From then on, nothing sets a phase
input otherwise than the first batch did. -/

/-! ## The property -/

/-- The input of the phase is forced on, and no other phase input is. -/
structure PhaseAlone (profile : Profile) (inputs : Inputs) (phase : Nat)
    (panel : Panel) : Prop where
  target : ∃ target, inputs.get? (profile.phaseInput phase) = some target ∧
    panel target.index = .on
  others : ∀ name ∈ profile.stageInputs.names, name ≠ profile.phaseInput phase →
    ∀ record, inputs.get? name = some record → panel record.index ≠ .on

def OverrideSafe (profile : Profile) (inputs : Inputs) (phase : Nat)
    (panel : Panel) : Prop :=
  ∀ manual, inputs.get? profile.manual = some manual → panel manual.index = .on →
    PhaseAlone profile inputs phase panel

def Profile.commanded (profile : Profile) : List String :=
  profile.manual :: profile.stageInputs.names

def Panel.Shows (panel : Panel) (inputs : Inputs) (names : List String) : Prop :=
  ∀ name ∈ names, ∀ record, inputs.get? name = some record →
    panel record.index = record.mode

/-! ## The rows of a plan -/

structure PhaseChange (profile : Profile) (inputs : Inputs) (phase : Nat)
    (plan : Plan) (panel : Panel) : Prop where
  planned : Plan.ofPhase profile inputs phase = .ok plan
  manualApart : profile.manual ∉ profile.stageInputs.names
  configured : profile.phaseInput phase ∈ profile.stageInputs.names
  distinct : DistinctRows inputs profile.commanded
  shows : panel.Shows inputs profile.commanded
  released : ∀ manual, inputs.get? profile.manual = some manual →
    manual.isForcedOn = false

def Plan.settings (plan : Plan) : List Setting :=
  (plan.first ++ plan.second).map Command.setting

namespace PhaseChange

variable {profile : Profile} {inputs : Inputs} {phase : Nat} {plan : Plan}
  {panel : Panel} {command : Command} {name : String}
  {record target manual : InputRecord} {history : List Setting}
  (change : PhaseChange profile inputs phase plan panel)

include change

theorem exists_of_mem_first (member : command ∈ plan.first) :
    ∃ name ∈ profile.stageInputs.names, ∃ record,
      inputs.get? name = some record ∧ command.index = record.index ∧
      (name = profile.phaseInput phase ∧ command.mode = .on ∨
        name ≠ profile.phaseInput phase ∧ command.mode = .off) := by
  rcases (Plan.mem_first_of_ofPhase change.planned).mp member with
    ⟨target, found, -, rfl⟩ | ⟨name, isStage, different, record, found, -, rfl⟩
  · exact ⟨_, change.configured, target, found, rfl, .inl ⟨rfl, rfl⟩⟩
  · exact ⟨name, isStage, record, found, rfl, .inr ⟨different, rfl⟩⟩

theorem index_ne_of_mem_first (found : inputs.get? profile.manual = some manual)
    (member : command ∈ plan.first) : command.index ≠ manual.index := by
  intro sameRow
  rcases change.exists_of_mem_first member with
    ⟨name, isStage, record, foundRecord, row, -⟩
  have sameName : name = profile.manual :=
    change.distinct name (List.mem_cons_of_mem _ isStage) _ List.mem_cons_self
      record manual foundRecord found (row.symm.trans sameRow)
  rw [sameName] at isStage
  exact change.manualApart isStage

theorem mode_of_mem_second (member : command ∈ plan.second) :
    ∃ manual, inputs.get? profile.manual = some manual ∧
      command.index = manual.index ∧ command.mode = .on := by
  rcases (Plan.mem_second_of_ofPhase change.planned).mp member with
    ⟨manual, found, -, rfl⟩
  exact ⟨manual, found, rfl, rfl⟩

theorem index_ne_of_mem_second (isStage : name ∈ profile.stageInputs.names)
    (found : inputs.get? name = some record) (member : command ∈ plan.second) :
    command.index ≠ record.index := by
  intro sameRow
  rcases change.mode_of_mem_second member with ⟨manual, foundManual, row, -⟩
  have sameName : profile.manual = name :=
    change.distinct _ List.mem_cons_self name (List.mem_cons_of_mem _ isStage)
      manual record foundManual found (row.symm.trans sameRow)
  rw [← sameName] at isStage
  exact change.manualApart isStage

/-- What the commands of the plan do to the row of a phase input. -/
theorem mode_of_row (isStage : name ∈ profile.stageInputs.names)
    (found : inputs.get? name = some record)
    (member : command ∈ plan.first ++ plan.second)
    (sameRow : command.index = record.index) :
    name = profile.phaseInput phase ∧ command.mode = .on ∨
      name ≠ profile.phaseInput phase ∧ command.mode = .off := by
  rcases List.mem_append.mp member with inFirst | inSecond
  · rcases change.exists_of_mem_first inFirst with
      ⟨other, otherStage, otherRecord, otherFound, row, sets⟩
    have sameName : other = name :=
      change.distinct other (List.mem_cons_of_mem _ otherStage) name
        (List.mem_cons_of_mem _ isStage) otherRecord record otherFound found
        (row.symm.trans sameRow)
    rw [sameName] at sets
    exact sets
  · exact absurd sameRow (change.index_ne_of_mem_second isStage found inSecond)

theorem mode_of_manual_row (found : inputs.get? profile.manual = some manual)
    (member : command ∈ plan.first ++ plan.second)
    (sameRow : command.index = manual.index) : command.mode = .on := by
  rcases List.mem_append.mp member with inFirst | inSecond
  · exact absurd sameRow (change.index_ne_of_mem_first found inFirst)
  · rcases change.mode_of_mem_second inSecond with ⟨-, -, -, isOn⟩
    exact isOn

/-! ## The panel during the change -/

/-- A property of the mode of a row that every command for the row brings about,
and that held before or was brought about by one of them. -/
theorem row_after {motive : Actuator.Mode → Prop}
    (isCommanded : name ∈ profile.commanded)
    (found : inputs.get? name = some record) (effects : history ⊆ plan.settings)
    (each : ∀ command ∈ plan.first ++ plan.second,
      command.index = record.index → motive command.mode)
    (start : motive record.mode ∨
      ∃ command, Command.setting command ∈ history ∧ command.index = record.index) :
    motive (panel.after history record.index) := by
  have eachSetting : ∀ setting ∈ history, setting.row = record.index →
      motive setting.mode := by
    intro setting member sameRow
    rcases List.mem_map.mp (effects member) with ⟨command, inPlan, rfl⟩
    exact each command inPlan sameRow
  rcases start with before | ⟨command, tookEffect, row⟩
  · apply Panel.after_of_before _ eachSetting
    rw [change.shows name isCommanded record found]
    exact before
  · exact Panel.after_of_mem tookEffect row eachSetting

/-- While only settings of the first batch take effect, the override stays as it
was. -/
theorem overrideSafe_of_first (effects : history ⊆ plan.first.map Command.setting) :
    OverrideSafe profile inputs phase (panel.after history) := by
  intro manual found isOn
  have notOn : panel.after history manual.index ≠ .on := by
    apply Panel.after_of_before (motive := fun mode => mode ≠ .on)
    · rw [change.shows _ List.mem_cons_self manual found]
      simpa [InputRecord.isForcedOn] using change.released manual found
    · intro setting member sameRow
      rcases List.mem_map.mp (effects member) with ⟨command, inFirst, rfl⟩
      exact absurd sameRow (change.index_ne_of_mem_first found inFirst)
  exact absurd isOn notOn

theorem target_on (effects : history ⊆ plan.settings)
    (done : plan.first.map Command.setting ⊆ history)
    (found : inputs.get? (profile.phaseInput phase) = some target) :
    panel.after history target.index = .on := by
  apply change.row_after (motive := fun mode => mode = .on)
    (List.mem_cons_of_mem _ change.configured) found effects
  · intro command inPlan sameRow
    rcases change.mode_of_row change.configured found inPlan sameRow with
      ⟨-, isOn⟩ | ⟨different, -⟩
    · exact isOn
    · exact absurd rfl different
  · cases forced : target.isForcedOn with
    | true =>
        left
        simpa [InputRecord.isForcedOn] using forced
    | false =>
        right
        have inFirst : target.command .on ∈ plan.first :=
          (Plan.mem_first_of_ofPhase change.planned).mpr
            (.inl ⟨target, found, forced, rfl⟩)
        exact ⟨_, done (List.mem_map_of_mem inFirst), rfl⟩

theorem other_not_on (effects : history ⊆ plan.settings)
    (done : plan.first.map Command.setting ⊆ history)
    (isStage : name ∈ profile.stageInputs.names)
    (different : name ≠ profile.phaseInput phase)
    (found : inputs.get? name = some record) :
    panel.after history record.index ≠ .on := by
  apply change.row_after (motive := fun mode => mode ≠ .on)
    (List.mem_cons_of_mem _ isStage) found effects
  · intro command inPlan sameRow isOn
    rcases change.mode_of_row isStage found inPlan sameRow with
      ⟨isTarget, -⟩ | ⟨-, isOff⟩
    · exact different isTarget
    · rw [isOff] at isOn
      cases isOn
  · cases forced : record.isForcedOn with
    | true =>
        right
        have inFirst := Plan.off_mem_first change.planned isStage different found forced
        exact ⟨_, done (List.mem_map_of_mem inFirst), rfl⟩
    | false =>
        left
        simpa [InputRecord.isForcedOn] using forced

/-- Once all of the first batch took effect, the phase stays alone. -/
theorem overrideSafe_of_done (effects : history ⊆ plan.settings)
    (done : plan.first.map Command.setting ⊆ history) :
    OverrideSafe profile inputs phase (panel.after history) := by
  intro manual found isOn
  constructor
  case target =>
    rcases Plan.exists_of_ofPhase change.planned (.inl rfl) with ⟨target, foundTarget⟩
    exact ⟨target, foundTarget, change.target_on effects done foundTarget⟩
  case others =>
    intro name isStage different record foundRecord
    exact change.other_not_on effects done isStage different foundRecord

theorem manual_on (effects : history ⊆ plan.settings)
    (done : plan.second.map Command.setting ⊆ history) :
    ∃ manual, inputs.get? profile.manual = some manual ∧
      panel.after history manual.index = .on := by
  rcases Plan.exists_of_ofPhase change.planned (.inr (.inl rfl)) with ⟨manual, found⟩
  refine ⟨manual, found, ?_⟩
  have inSecond : manual.command .on ∈ plan.second :=
    (Plan.mem_second_of_ofPhase change.planned).mpr
      ⟨manual, found, change.released manual found, rfl⟩
  apply change.row_after (motive := fun mode => mode = .on) List.mem_cons_self found
    effects
  · intro command inPlan sameRow
    exact change.mode_of_manual_row found inPlan sameRow
  · exact .inr ⟨_, done (List.mem_map_of_mem inSecond), rfl⟩

end PhaseChange

/-! ## The whole run -/

theorem settings_of_poll {poll : Round} {controller : Controller}
    (calls : poll.calls = [controller.pageCall .inputs]) (fieldPrefix : String) :
    poll.settings fieldPrefix = [] := by
  rw [Round.settings, calls]
  rfl

namespace PhaseChange

variable {controller : Controller} {inputs : Inputs} {phase : Nat} {plan : Plan}
  {panel : Panel} {rounds : List Round} {faults : Option (List String)}
  {before after history past : List Setting}

theorem overrideSafe_of_prefix {profile : Profile}
    (change : PhaseChange profile inputs phase plan panel)
    (effectsBefore : before ⊆ plan.first.map Command.setting)
    (done : plan.first.map Command.setting ⊆ before)
    (effects : before ++ after ⊆ plan.settings) (beginning : past <+: before ++ after) :
    OverrideSafe profile inputs phase (panel.after past) := by
  rcases List.prefix_or_prefix_of_prefix beginning (List.prefix_append before after)
    with inFirst | beyond
  · apply change.overrideSafe_of_first
    exact List.Subset.trans inFirst.subset effectsBefore
  · apply change.overrideSafe_of_done
    · exact List.Subset.trans beginning.subset effects
    · exact List.Subset.trans done beyond.subset

/-- The batches of the plan, for a device that carries them out as it likes. -/
theorem overrideSafe_of_sent
    (change : PhaseChange controller.profile inputs phase plan panel)
    (sent : Sent controller plan.batches rounds faults)
    (unfolds : PanelHistory controller.profile.fieldPrefix [] rounds history) :
    (∀ past, past <+: history →
      OverrideSafe controller.profile inputs phase (panel.after past)) ∧
    (faults = none → ∃ manual,
      inputs.get? controller.profile.manual = some manual ∧
      panel.after history manual.index = .on) := by
  cases sent with
  | exhausted first =>
      -- The second batch was never issued.
      have effects : history ⊆ plan.first.map Command.setting :=
        List.Subset.trans unfolds.subset first.sent.settings_subset
      constructor
      · intro past beginning
        apply change.overrideSafe_of_first
        exact List.Subset.trans beginning.subset effects
      · intro impossible
        cases impossible
  | @committed _ _ firstRounds laterRounds _ first later =>
      rcases later.of_singleton with ⟨second, secondCommitted⟩
      -- Late effects of the first batch may come after the cut, but add nothing new.
      rcases unfolds.split with ⟨before, after, rfl, unfoldsFirst, unfoldsLater⟩
      have effectsBefore : before ⊆ plan.first.map Command.setting :=
        List.Subset.trans unfoldsFirst.subset first.sent.settings_subset
      have effects : before ++ after ⊆ plan.settings := by
        have effectsAll := unfolds.subset
        rw [List.nil_append, List.flatMap_append] at effectsAll
        rw [Plan.settings, List.map_append]
        intro setting member
        rcases List.mem_append.mp (effectsAll member) with inFirst | inSecond
        · exact List.mem_append_left _ (first.sent.settings_subset inFirst)
        · exact List.mem_append_right _ (second.settings_subset inSecond)
      have done := first.settings_subset unfoldsFirst
      constructor
      · intro past beginning
        exact change.overrideSafe_of_prefix effectsBefore done effects beginning
      · intro noFaults
        have engaged := (secondCommitted noFaults).settings_subset unfoldsLater
        apply change.manual_on effects
        exact List.subset_append_of_subset_right _ engaged

end PhaseChange

/-- Wherever the manual override is forced on during a change to a phase, the input
of that phase is forced on and no other phase input is; and if the change is
confirmed, the override ends forced on. This is for a device that may carry out the
commands in any order and late, of which only the accepted ones are known to have
been carried out, and that starts as the inputs page said. -/
theorem Controller.setStage_overrideSafe {State : Type} (controller : Controller)
    (link : Link State) (device : State) {stage : Stage} (phase : stage.number ≠ 0)
    (manualApart : controller.profile.manual ∉ controller.profile.stageInputs.names)
    (configured : controller.profile.phaseInput stage.number ∈
      controller.profile.stageInputs.names)
    {inputs : Inputs} (reads : (controller.poll link device).ReadsInputs controller inputs)
    (distinct : DistinctRows inputs controller.profile.commanded)
    (released : ∀ manual, inputs.get? controller.profile.manual = some manual →
      manual.isForcedOn = false)
    {panel : Panel} (shows : panel.Shows inputs controller.profile.commanded)
    {history : List Setting}
    (unfolds : PanelHistory controller.profile.fieldPrefix []
      (controller.setStage link stage.number device).rounds history) :
    (∀ past, past <+: history →
      OverrideSafe controller.profile inputs stage.number (panel.after past)) ∧
    (∀ confirmed,
      (controller.setStage link stage.number device).outcome.2 = .ok confirmed →
      ∃ manual, inputs.get? controller.profile.manual = some manual ∧
        panel.after history manual.index = .on) := by
  have run := controller.setStage_run link stage.number device
  rcases controller.exists_setStage_rounds link stage device with ⟨sent, rounds⟩
  rw [rounds] at run unfolds
  generalize (controller.setStage link stage.number device).outcome.2 = result at run ⊢
  -- The override is released in the panel that the inputs were read from.
  have safeBefore : OverrideSafe controller.profile inputs stage.number panel := by
    intro manual found isOn
    rw [shows _ List.mem_cons_self manual found] at isOn
    have notForced := released manual found
    simp [InputRecord.isForcedOn, isOn] at notForced
  cases run with
  | unavailable number calls unread => exact absurd reads (unread inputs)
  | @unplanned other _ _ error number calls _ unplanned =>
      have nothing : history = [] := by
        apply List.subset_nil.mp
        simpa [settings_of_poll calls] using unfolds.subset
      subst nothing
      constructor
      · intro past beginning
        rw [List.prefix_nil.mp beginning]
        exact safeBefore
      · intro confirmed impossible
        cases impossible
  | @planned other _ plan _ faults number calls leads batches =>
      have sameStage : other = stage := Stage.eq_of_number_eq (by omega)
      subst sameStage
      rcases leads with ⟨others, readsOthers, planned⟩
      rw [readsOthers.unique reads, plan_of_phase phase] at planned
      have change : PhaseChange controller.profile inputs other.number plan panel :=
        { planned, manualApart, configured, distinct, shows, released }
      cases unfolds with
      | @cons _ _ _ effects later asked accepted unfolds =>
          rw [settings_of_poll calls, List.append_nil] at asked unfolds
          rw [List.subset_nil.mp asked, List.nil_append]
          rcases change.overrideSafe_of_sent batches unfolds with ⟨safe, engaged⟩
          refine ⟨safe, ?_⟩
          intro confirmed isOk
          exact engaged (sentResult_eq_ok_iff.mp isOk).2

/-! ## A change at a small junction

The device answers every call at once and carries out every command as it is
issued. -/

def junctionProfile : Profile where
  inputs := Profile.inputSet ["M", "P1", "P2"]
  stageInputs := NameTable.ofList [("P1", 1), ("P2", 2)]
  manual := "M"
  phasePrefix := "P"
  fieldPrefix := "R"
  credentials := ⟨"", ""⟩

def junctionController : Controller where
  address := "junction"
  profile := junctionProfile
  parsers := PlainPage.parsers

def junctionPage : String := "0;1;M;0;9;-\n1;2;P1;1;9;-\n2;3;P2;0;9;-"

def junctionRecord (index : UInt32) (name : String) (state : InputState) :
    InputRecord where
  index := index
  number := index + 1
  name := name
  state := state
  stateTime := "9"
  actuator := .label .flashing

def junctionInputs : Inputs :=
  NameTable.ofList
    [("M", junctionRecord 0 "M" .idle), ("P1", junctionRecord 1 "P1" .active),
      ("P2", junctionRecord 2 "P2" .idle)]

def junctionAnswer : Call → Answer
  | .fetch _ => .response Http.ok (.ok junctionPage)
  | .post _ _ _ => .response Http.ok (.ok Verdict.emptyAlert)

def junctionLink : Link Unit where
  exchange := fun _ calls =>
    (.inOrder (Vector.ofFn fun position => junctionAnswer (calls.get position)), ())

def flashingPanel : Panel := fun _ => .flashing

def junctionStage : Stage := { number := 2 }

def junctionHistory : List Setting :=
  (junctionController.setStage junctionLink junctionStage.number ()).rounds.flatMap
    (Round.settings · "R")

theorem junction_overrideSafe :
    (∀ past, past <+: junctionHistory →
      OverrideSafe junctionProfile junctionInputs junctionStage.number (flashingPanel.after past)) ∧
    (∀ confirmed,
      (junctionController.setStage junctionLink junctionStage.number ()).outcome.2 = .ok confirmed →
      ∃ manual, junctionInputs.get? "M" = some manual ∧
        flashingPanel.after junctionHistory manual.index = .on) := by
  have reads : (junctionController.poll junctionLink ()).ReadsInputs
      junctionController junctionInputs := ⟨junctionPage, rfl, rfl⟩
  have distinct : DistinctRows junctionInputs junctionProfile.commanded :=
    distinctRows_of_entries (by decide) _
  have flashing : ∀ entry ∈ junctionInputs.entries, entry.2.mode = .flashing := by
    decide
  have released : ∀ manual, junctionInputs.get? junctionProfile.manual = some manual →
      manual.isForcedOn = false := by
    intro manual found
    have mode := flashing (_, manual) (NameTable.mem_entries_iff.mpr found)
    simp [InputRecord.isForcedOn, mode]
  have shows : flashingPanel.Shows junctionInputs junctionProfile.commanded := by
    intro name _ record found
    exact (flashing (name, record) (NameTable.mem_entries_iff.mpr found)).symm
  have unfolds : PanelHistory "R" []
      (junctionController.setStage junctionLink junctionStage.number ()).rounds
      junctionHistory := PanelHistory.prompt "R" [] _
  have phase : junctionStage.number ≠ 0 := by decide
  exact junctionController.setStage_overrideSafe junctionLink () phase (by decide)
    (by decide) reads distinct released shows unfolds

end SignalControl
