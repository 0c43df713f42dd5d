import SignalControl.Proofs.CommandEncoding
import SignalControl.Proofs.StageTrace

namespace SignalControl

/-! The device's side of a run. A device has one actuator mode for each row, and a
command asks it to set the mode of one row. It is known to have done so only once
the command was accepted. -/

/-! ## Rows and settings -/

def Panel : Type := UInt32 → Actuator.Mode

structure Setting where
  row : UInt32
  mode : Actuator.Mode
deriving DecidableEq

namespace Panel

variable {panel : Panel} {row : UInt32} {setting : Setting}
  {settings later : List Setting} {motive : Actuator.Mode → Prop}

def set (panel : Panel) (setting : Setting) : Panel := fun row =>
  if row = setting.row then setting.mode else panel row

def after (panel : Panel) (settings : List Setting) : Panel :=
  settings.foldl set panel

@[simp] theorem after_cons :
    panel.after (setting :: settings) = (panel.set setting).after settings := rfl

theorem after_append :
    panel.after (settings ++ later) = (panel.after settings).after later := by
  rw [after, List.foldl_append]
  rfl

/-- A property of the mode of a row survives a setting, if it is one of the mode
that the setting may give to the row. -/
theorem set_of_before (before : motive (panel row))
    (each : setting.row = row → motive setting.mode) :
    motive (panel.set setting row) := by
  rw [set]
  split
  next same => exact each same.symm
  next => exact before

theorem after_of_before (before : motive (panel row))
    (each : ∀ setting ∈ settings, setting.row = row → motive setting.mode) :
    motive (panel.after settings row) := by
  induction settings generalizing panel with
  | nil => exact before
  | cons setting rest induction =>
      rw [after_cons]
      apply induction
      · exact set_of_before before (each setting List.mem_cons_self)
      · intro other member
        exact each other (List.mem_cons_of_mem setting member)

theorem after_of_mem (member : setting ∈ settings) (sets : setting.row = row)
    (each : ∀ setting ∈ settings, setting.row = row → motive setting.mode) :
    motive (panel.after settings row) := by
  rcases List.append_of_mem member with ⟨earlier, rest, rfl⟩
  rw [after_append, after_cons]
  apply after_of_before
  · rw [set, if_pos sets.symm]
    exact each setting member sets
  · intro other inRest
    exact each other (List.mem_append_right _ (List.mem_cons_of_mem _ inRest))

end Panel

/-! ## What a call asks for -/

def Call.setting? (fieldPrefix : String) : Call → Option Setting
  | .fetch _ => none
  | .post _ fields _ => do
      let rowName ← fields.lookup Payload.rowField
      let digits ← fieldPrefix.toList.isPrefixOf? rowName.toList
      let row ← Text.readUInt32? digits
      let digit ← fields.lookup Payload.modeField
      match Actuator.Token.ofText? digit with
      | some (.value mode) => some { row := row, mode := mode }
      | _ => none

def Command.setting (command : Command) : Setting :=
  { row := command.index, mode := command.mode }

def Payload.setting? (fieldPrefix : String) (payload : Payload) : Option Setting :=
  (Call.post "" payload.fields none).setting? fieldPrefix

/-- A device that looks the two fields up finds what the form denotes. -/
theorem Payload.Denotes.setting?_eq {fieldPrefix : String} {payload : Payload}
    {index : UInt32} {mode : Actuator.Mode}
    (denotes : Denotes fieldPrefix payload.fields index mode) :
    payload.setting? fieldPrefix = some { row := index, mode := mode } := by
  rcases denotes with ⟨rowName, digits, digit, fields, behind, row, read⟩
  have different : (modeField == rowField) = false := by decide
  simp only [Payload.setting?, Call.setting?, fields, List.lookup_cons,
    beq_self_eq_true, different, behind, row, read, Option.bind_eq_bind, Option.bind_some]

@[simp] theorem Command.setting?_payload (command : Command) (fieldPrefix : String) :
    (command.payload fieldPrefix).setting? fieldPrefix = some command.setting :=
  (Payload.denotes_build command.index fieldPrefix _ command.input).setting?_eq

/-- The address and the cookie of a call ask for nothing. -/
@[simp] theorem Controller.setting?_commandCall (controller : Controller)
    (command : Command) :
    (controller.commandCall command).setting? controller.profile.fieldPrefix =
      some command.setting :=
  command.setting?_payload controller.profile.fieldPrefix

/-! ## What may happen to a panel -/

namespace Round

def settings (round : Round) (fieldPrefix : String) : List Setting :=
  round.calls.filterMap (Call.setting? fieldPrefix)

def acceptedSettings (round : Round) (fieldPrefix : String) : List Setting :=
  ((round.completion.answered round.calls).filter fun answered =>
    answered.2.accepts).filterMap fun answered => answered.1.setting? fieldPrefix

theorem settings_of_whole {round : Round} {controller : Controller} {batch : Batch}
    (whole : round.calls = batch.map controller.commandCall) :
    round.settings controller.profile.fieldPrefix = batch.map Command.setting := by
  rw [settings, whole, List.filterMap_map]
  have each : Call.setting? controller.profile.fieldPrefix ∘ controller.commandCall =
      some ∘ Command.setting := by
    funext command
    exact controller.setting?_commandCall command
  rw [each, List.filterMap_eq_map]

theorem acceptedSettings_subset (round : Round) (fieldPrefix : String) :
    round.acceptedSettings fieldPrefix ⊆ round.settings fieldPrefix := by
  intro setting member
  rcases List.mem_filterMap.mp member with ⟨⟨call, answer⟩, accepted, asked⟩
  have isCall : call ∈ round.calls :=
    (List.of_mem_zip (List.mem_filter.mp accepted).1).1
  exact List.mem_filterMap.mpr ⟨call, isCall, asked⟩

theorem acceptedSettings_of_isAccepted {round : Round}
    (accepted : round.isAccepted = true) (fieldPrefix : String) :
    round.acceptedSettings fieldPrefix = round.settings fieldPrefix := by
  have everyAnswer : ∀ answered ∈ round.completion.answered round.calls,
      answered.2.accepts = true := by
    intro answered member
    have isAnswer : answered.2 ∈ round.answers := (List.of_mem_zip member).2
    exact List.all_eq_true.mp accepted _ isAnswer
  have calls : (round.completion.answered round.calls).map Prod.fst = round.calls :=
    round.completion.map_fst_answered rfl
  rw [acceptedSettings, List.filter_eq_self.mpr everyAnswer, settings]
  conv => rhs; rw [← calls, List.filterMap_map]
  rfl

end Round

/-- The settings that take effect while rounds are made, after others were already
issued. The device may carry out a setting at any time once it was issued, more
than once or not at all; but the settings accepted in a round take effect in it. -/
inductive PanelHistory (fieldPrefix : String) :
    List Setting → List Round → List Setting → Prop
  | nil {issued} : PanelHistory fieldPrefix issued [] []
  | cons {issued round rounds effects later} :
      effects ⊆ issued ++ round.settings fieldPrefix →
      round.acceptedSettings fieldPrefix ⊆ effects →
      PanelHistory fieldPrefix (issued ++ round.settings fieldPrefix) rounds later →
      PanelHistory fieldPrefix issued (round :: rounds) (effects ++ later)

namespace PanelHistory

variable {fieldPrefix : String} {issued history : List Setting}
  {rounds firstRounds laterRounds : List Round} {round : Round}

theorem subset (unfolds : PanelHistory fieldPrefix issued rounds history) :
    history ⊆ issued ++ rounds.flatMap (Round.settings · fieldPrefix) := by
  induction unfolds with
  | nil => simp
  | @cons issued round rounds effects later asked accepted unfolds induction =>
      rw [List.flatMap_cons, ← List.append_assoc]
      apply List.append_subset.mpr
      constructor
      · intro setting member
        exact List.mem_append_left _ (asked member)
      · exact induction

theorem accepted (unfolds : PanelHistory fieldPrefix issued rounds history)
    (member : round ∈ rounds) : round.acceptedSettings fieldPrefix ⊆ history := by
  induction unfolds with
  | nil => cases member
  | @cons issued first rounds effects later asked accepted unfolds induction =>
      intro setting isAccepted
      rcases List.mem_cons.mp member with equal | tail
      · subst equal
        exact List.mem_append_left _ (accepted isAccepted)
      · exact List.mem_append_right _ (induction tail isAccepted)

theorem split (unfolds : PanelHistory fieldPrefix issued (firstRounds ++ laterRounds)
      history) :
    ∃ before after, history = before ++ after ∧
      PanelHistory fieldPrefix issued firstRounds before ∧
      PanelHistory fieldPrefix
        (issued ++ firstRounds.flatMap (Round.settings · fieldPrefix))
        laterRounds after := by
  induction firstRounds generalizing issued history with
  | nil => exact ⟨[], history, rfl, .nil, by simpa using unfolds⟩
  | cons round rest induction =>
      cases unfolds with
      | @cons _ _ _ effects later asked accepted unfolds =>
          rcases induction unfolds with ⟨before, after, rfl, first, second⟩
          refine ⟨effects ++ before, after, by rw [List.append_assoc],
            .cons asked accepted first, ?_⟩
          rw [List.flatMap_cons, ← List.append_assoc]
          exact second

theorem prompt (fieldPrefix : String) (issued : List Setting) (rounds : List Round) :
    PanelHistory fieldPrefix issued rounds
      (rounds.flatMap (Round.settings · fieldPrefix)) := by
  induction rounds generalizing issued with
  | nil => exact .nil
  | cons round rest induction =>
      exact .cons (List.subset_append_right _ _)
        (round.acceptedSettings_subset fieldPrefix) (induction _)

end PanelHistory

/-! ## The batches of a run -/

section

variable {controller : Controller} {batch : Batch} {rounds : List Round}
  {issued history : List Setting}

theorem BatchRounds.settings_subset (sent : BatchRounds controller batch rounds) :
    rounds.flatMap (Round.settings · controller.profile.fieldPrefix) ⊆
      batch.map Command.setting := by
  intro setting member
  rcases List.mem_flatMap.mp member with ⟨round, inRounds, asked⟩
  rw [Round.settings_of_whole (sent.whole round inRounds)] at asked
  exact asked

theorem Committed.settings_subset (committed : Committed controller batch rounds)
    (unfolds : PanelHistory controller.profile.fieldPrefix issued rounds history) :
    batch.map Command.setting ⊆ history := by
  by_cases empty : batch = []
  · simp [empty]
  · rcases committed.accepted empty with ⟨round, member, accepted⟩
    rw [← Round.settings_of_whole (committed.sent.whole round member),
      ← Round.acceptedSettings_of_isAccepted accepted]
    exact unfolds.accepted member

end

end SignalControl
