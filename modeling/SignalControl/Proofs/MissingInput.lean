import SignalControl.Proofs.ProfileAcceptance
import SignalControl.Proofs.SoughtInputs
import SignalControl.Proofs.StageOutcome
import SignalControl.Proofs.WorkBound

namespace SignalControl

/-! When planning fails for a controller whose profile was accepted. A page that shows
all inputs of the profile lacks at most the target of a phase. A stage change that
fails for want of an input has sent no command. -/

section

variable {profile : Profile} {stage : Stage} {name : String}

theorem known_of_sought {description : ProfileDescription}
    (accepted : Profile.ofDescription description = .ok profile)
    (isSought : name ∈ profile.sought stage) :
    profile.inputs.contains name = true ∨
      stage.number ≠ 0 ∧ name = profile.phaseInput stage.number := by
  rcases Profile.ofDescription_known accepted with ⟨manualKnown, stagesKnown⟩
  rw [Profile.sought] at isSought
  split at isSought
  next =>
    rcases List.mem_cons.mp isSought with rfl | isStage
    · exact .inl manualKnown
    · exact .inl (stagesKnown name isStage)
  next phase =>
    rw [List.mem_cons, List.mem_append, List.mem_filter, List.mem_singleton] at isSought
    rcases isSought with isTarget | ⟨isStage, -⟩ | rfl
    · exact .inr ⟨phase, isTarget⟩
    · exact .inl (stagesKnown name isStage)
    · exact .inl manualKnown

end

/-! ## Changes that fail -/

section

variable {controller : Controller} {requested : Int} {rounds : List Round}
  {result : Except StageError Stage} {error : PlanError}

/-- A change that could not be planned ends with its poll. -/
theorem StageRun.posts_of_unplanned (run : StageRun controller requested rounds result)
    (failed : result = .error (.unplanned error)) : posts rounds = 0 := by
  cases run with
  | outOfRange outside => cases failed
  | unavailable number calls unread => cases failed
  | unplanned number calls reads unplanned => exact (requests_of_poll calls).2
  | @planned stage poll made sent faults number calls leads batches =>
      cases faults <;> cases failed

end

/-- Planning fails exactly if an input that it looks up is missing, and then with the
first one that is. From a map of all inputs of the profile, only the target of a phase
can be missing. A stage change ends with the error of its planning exactly if the page
that it read leads to that error, and it has sent no command then. -/
theorem plan_fails_iff_missing {description : ProfileDescription} {profile : Profile}
    (accepted : Profile.ofDescription description = .ok profile) :
    (∀ inputs stage error, plan profile inputs stage = .error error ↔
      Plan.missing? inputs (profile.sought stage) = some error) ∧
    (∀ inputs stage, (∃ error, plan profile inputs stage = .error error) ↔
      ∃ name ∈ profile.sought stage, inputs.contains name = false) ∧
    (∀ inputs : Inputs,
      (∀ name, profile.inputs.contains name = true → inputs.contains name = true) →
      (∃ made, plan profile inputs Stage.reset = .ok made) ∧
      ∀ stage error, plan profile inputs stage = .error error →
        error = .missingInput (profile.phaseInput stage.number)) ∧
    ∀ {State : Type} (controller : Controller) (link : Link State) (requested : Int)
      (device : State) (error : PlanError), controller.profile = profile →
      ((controller.setStage link requested device).outcome.2 =
          .error (.unplanned error) ↔
        ∃ stage poll sent inputs, requested = Stage.number stage ∧
          (controller.setStage link requested device).rounds = poll :: sent ∧
          poll.ReadsInputs controller inputs ∧
          plan profile inputs stage = .error error) ∧
      ((controller.setStage link requested device).outcome.2 =
          .error (.unplanned error) →
        posts (controller.setStage link requested device).rounds = 0) := by
  refine ⟨fun _ _ _ => plan_eq_error_iff, fun _ _ => exists_plan_error_iff, ?_, ?_⟩
  · intro inputs complete
    constructor
    · apply exists_plan_iff.mpr
      intro name isSought
      rcases known_of_sought accepted isSought with known | ⟨phase, -⟩
      · exact complete name known
      · exact absurd rfl phase
    · intro stage error failed
      rcases Plan.exists_of_missing? (plan_eq_error_iff.mp failed) with
        ⟨name, isSought, absent, rfl⟩
      rcases known_of_sought accepted isSought with known | ⟨-, isTarget⟩
      · rw [complete name known] at absent
        cases absent
      · rw [isTarget]
  · intro State controller link requested device error ofProfile
    subst ofProfile
    have run := controller.setStage_run link requested device
    exact ⟨run.unplanned_iff error, run.posts_of_unplanned⟩

/-! ## A page with gaps

Of the three inputs, the page shows one phase input alone. -/

def gapInputs : Inputs :=
  NameTable.ofList [("P3", .shown 1 "P3" .idle .flashing)]

def gapController : Controller where
  address := "gap"
  profile := pairProfile "M"
  parsers := { main := fun _ => .ok (.inputs gapInputs)
               inputs := fun _ => .ok (.inputs gapInputs) }

/-- The override is missed first by a reset, and last by a change to a phase. -/
theorem gap_plan_fails :
    plan (pairProfile "M") gapInputs Stage.reset = .error (.missingInput "M") ∧
      plan (pairProfile "M") gapInputs pairStage = .error (.missingInput "P4") ∧
      plan (pairProfile "M") gapInputs { number := 6 } = .error (.missingInput "P6") ∧
      (gapController.setStage refusingLink pairStage.number ()).outcome.2 =
        .error (.unplanned (.missingInput "P4")) ∧
      posts (gapController.setStage refusingLink pairStage.number ()).rounds = 0 := by
  have accepted : Profile.ofDescription (pairDescription "M") = .ok (pairProfile "M") :=
    rfl
  rcases plan_fails_iff_missing accepted with ⟨fails, -, -, changes⟩
  have unplanned : plan (pairProfile "M") gapInputs pairStage =
      .error (.missingInput "P4") := (fails _ _ _).mpr rfl
  rcases changes gapController refusingLink pairStage.number () (.missingInput "P4") rfl
    with ⟨endsSo, postsNothing⟩
  rcases gapController.exists_setStage_rounds refusingLink pairStage () with ⟨sent, rounds⟩
  have failed := endsSo.mpr
    ⟨pairStage, _, sent, gapInputs, rfl, rounds, ⟨"", rfl, rfl⟩, unplanned⟩
  exact ⟨(fails _ _ _).mpr rfl, unplanned, (fails _ _ _).mpr rfl, failed,
    postsNothing failed⟩

end SignalControl
