import Mathlib.Data.List.Forall2
import SignalControl.Proofs.OverrideBatch
import SignalControl.Proofs.ProfileAcceptance

namespace SignalControl

/-! What a plan may depend on. Planning sees the records of the inputs that it needs,
and of these the row, the name, the level and the mode. Two maps that agree on so
much have one plan, or fail with one error. The order in which records or phase
inputs were supplied is nothing that planning could see. -/

/-! ## Computations on like values -/

inductive Matching (related : α → β → Prop) : Except ε α → Except ε β → Prop
  | error (error : ε) : Matching related (.error error) (.error error)
  | ok {left : α} {right : β} : related left right →
      Matching related (.ok left) (.ok right)

theorem Matching.bind {related : α → β → Prop} {later : γ → δ → Prop}
    {leftFirst : Except ε α} {rightFirst : Except ε β} {leftNext : α → Except ε γ}
    {rightNext : β → Except ε δ} (first : Matching related leftFirst rightFirst)
    (rest : ∀ left right, related left right →
      Matching later (leftNext left) (rightNext right)) :
    Matching later (leftFirst >>= leftNext) (rightFirst >>= rightNext) := by
  cases first with
  | error error => exact .error error
  | ok alike => exact rest _ _ alike

theorem Matching.eq {left right : Except ε α} (same : Matching Eq left right) :
    left = right := by
  cases same with
  | error error => rfl
  | ok equal => rw [equal]

/-! ## Records that planning cannot tell apart -/

structure InputRecord.Alike (left right : InputRecord) : Prop where
  index : left.index = right.index
  name : left.name = right.name
  state : left.state = right.state
  mode : left.mode = right.mode

/-- Each of the names is in both maps or in none, and planning cannot tell its records
apart. -/
def AgreeOn (names : List String) (left right : Inputs) : Prop :=
  ∀ name ∈ names, Option.Rel InputRecord.Alike (left.get? name) (right.get? name)

namespace InputRecord.Alike

variable {left right : InputRecord} {lefts rights : List InputRecord}

theorem command (alike : left.Alike right) (mode : Actuator.Mode) :
    left.command mode = right.command mode := by
  rw [InputRecord.command, InputRecord.command, alike.name, alike.index]

theorem isForcedOn (alike : left.Alike right) : left.isForcedOn = right.isForcedOn := by
  rw [InputRecord.isForcedOn, InputRecord.isForcedOn, alike.mode]

theorem release (alike : left.Alike right) : Plan.release left = Plan.release right := by
  have sameMode : Plan.releaseMode left = Plan.releaseMode right := by
    rw [Plan.releaseMode, Plan.releaseMode, alike.state, alike.mode]
  rw [Plan.release, Plan.release, sameMode, funext alike.command]

theorem forceOn (alike : left.Alike right) : Plan.forceOn left = Plan.forceOn right := by
  rw [Plan.forceOn, Plan.forceOn, alike.isForcedOn, alike.command]

theorem clear (alike : left.Alike right) : Plan.clear left = Plan.clear right := by
  simp only [Plan.clear, alike.state, alike.isForcedOn, alike.command]

theorem filterMap_eq {choose : InputRecord → Option Command}
    (same : ∀ left right, InputRecord.Alike left right → choose left = choose right)
    (alike : List.Forall₂ InputRecord.Alike lefts rights) :
    lefts.filterMap choose = rights.filterMap choose := by
  induction alike with
  | nil => rfl
  | cons head _ induction =>
      rw [List.filterMap_cons, List.filterMap_cons, same _ _ head, induction]

end InputRecord.Alike

/-! ## Plans from maps that agree -/

section

variable {profile : Profile} {stage : Stage} {left right : Inputs} {name : String}
  {names : List String}

theorem Plan.lookup_matching
    (agree : Option.Rel InputRecord.Alike (left.get? name) (right.get? name)) :
    Matching InputRecord.Alike (lookup left name) (lookup right name) := by
  rw [lookup, lookup]
  generalize left.get? name = leftFound at agree ⊢
  generalize right.get? name = rightFound at agree ⊢
  cases agree with
  | none => exact .error _
  | some alike => exact .ok alike

theorem Plan.lookupAll_matching (agree : AgreeOn names left right) :
    Matching (List.Forall₂ InputRecord.Alike) (lookupAll left names)
      (lookupAll right names) := by
  induction names with
  | nil => exact .ok .nil
  | cons name rest induction =>
      rw [lookupAll, lookupAll]
      apply (lookup_matching (agree name List.mem_cons_self)).bind
      intro leftRecord rightRecord alike
      have agreeRest : AgreeOn rest left right := fun other member =>
        agree other (List.mem_cons_of_mem name member)
      apply (induction agreeRest).bind
      intro leftOthers rightOthers alikeOthers
      exact .ok (.cons alike alikeOthers)

theorem plan_eq_of_agreeOn (agree : AgreeOn (profile.needed stage) left right) :
    plan profile left stage = plan profile right stage := by
  have manual := Plan.lookup_matching (agree _ (Profile.mem_needed_iff.mpr (.inl rfl)))
  have agreePhases : AgreeOn (profile.phaseNames stage) left right := fun name isPhase =>
    agree name (Profile.mem_needed_iff.mpr (.inr isPhase))
  by_cases reset : stage.number = 0
  · rw [Profile.phaseNames, if_pos reset] at agreePhases
    rw [plan_of_reset reset, plan_of_reset reset, Plan.ofReset, Plan.ofReset]
    apply Matching.eq
    apply manual.bind
    intro leftManual rightManual alikeManual
    apply (Plan.lookupAll_matching agreePhases).bind
    intro leftPhases rightPhases alikePhases
    rw [alikeManual.release,
      InputRecord.Alike.filterMap_eq (fun _ _ => InputRecord.Alike.release) alikePhases]
    exact .ok rfl
  · rw [Profile.phaseNames, if_neg reset] at agreePhases
    have agreeOthers : AgreeOn
        (Plan.competitors profile (profile.phaseInput stage.number)) left right := by
      intro name competes
      exact agreePhases name
        (List.mem_cons_of_mem _ (Plan.mem_competitors_iff.mp competes).1)
    rw [plan_of_phase reset, plan_of_phase reset, Plan.ofPhase, Plan.ofPhase]
    apply Matching.eq
    apply (Plan.lookup_matching (agreePhases _ List.mem_cons_self)).bind
    intro leftTarget rightTarget alikeTarget
    apply (Plan.lookupAll_matching agreeOthers).bind
    intro leftOthers rightOthers alikeOthers
    apply manual.bind
    intro leftManual rightManual alikeManual
    rw [alikeTarget.forceOn, alikeManual.forceOn,
      InputRecord.Alike.filterMap_eq (fun _ _ => InputRecord.Alike.clear) alikeOthers]
    exact .ok rfl

end

/-! ## Orders of supply -/

/-- Both lists have the same entries, and those of any one name in the same order. -/
def SuppliedAlike (left right : List (String × α)) : Prop :=
  ∀ name, (left.filter fun entry => entry.1 == name) =
    right.filter fun entry => entry.1 == name

theorem SuppliedAlike.ofList_eq {left right : List (String × α)}
    (alike : SuppliedAlike left right) :
    NameTable.ofList left = NameTable.ofList right := by
  apply NameTable.ext_get?
  intro name
  rw [NameTable.get?_ofList, NameTable.get?_ofList, alike name]

theorem suppliedAlike_of_perm {left right : List (String × α)}
    (reordered : left.Perm right)
    (distinct : left.Pairwise fun earlier later => earlier.1 ≠ later.1) :
    SuppliedAlike left right := by
  intro name
  have apart := reordered.pairwise distinct fun different => different.symm
  refine (reordered.filter _).eq_of_pairwise ?_ (distinct.filter _) (apart.filter _)
  intro leftEntry rightEntry inLeft inRight different
  have leftName := beq_iff_eq.mp (List.mem_filter.mp inLeft).2
  have rightName := beq_iff_eq.mp (List.mem_filter.mp inRight).2
  exact absurd (leftName.trans rightName.symm) different

/-- A plan, or the error in its place, is decided by the profile, the stage and what
planning sees of the inputs that it needs. The order in which the records of a map were
supplied does not show in it, and that of the phase inputs in the description not even
in the profile. -/
theorem plan_depends_on_needed {description : ProfileDescription} {profile : Profile}
    (accepted : Profile.ofDescription description = .ok profile) :
    (∀ stage left right, AgreeOn (profile.needed stage) left right →
      plan profile left stage = plan profile right stage) ∧
    (∀ stage (supplied reordered : List (String × InputRecord)),
      SuppliedAlike supplied reordered →
      plan profile (NameTable.ofList supplied) stage =
        plan profile (NameTable.ofList reordered) stage) ∧
    ∀ stages : List String, stages.Perm description.stages →
      Profile.ofDescription { description with stages := stages } = .ok profile := by
  refine ⟨fun _ _ _ => plan_eq_of_agreeOn, ?_, ?_⟩
  · intro stage supplied reordered alike
    rw [alike.ofList_eq]
  · intro stages reordered
    exact Profile.ofDescription_of_perm accepted reordered

/-! ## Another view of one junction

The records of three inputs differ from those of `pairInputs` in all that planning does
not see, and come in another order. There is a fourth input besides. -/

def otherView (index : UInt32) (name : String) (state : InputState)
    (mode : Actuator.Mode) : InputRecord where
  index := index
  number := 70
  name := name
  state := state
  stateTime := "later"
  actuator := .value mode

def otherRecords : List (String × InputRecord) :=
  [("P4", otherView 2 "P4" .active .on), ("P3", otherView 1 "P3" .idle .flashing),
    ("Q", otherView 3 "Q" .active .on), ("M", otherView 0 "M" .idle .flashing)]

theorem pair_plan_of_other_view :
    ∃ profile made,
      Profile.ofDescription { pairDescription "M" with stages := ["P4", "P3"] } =
        .ok profile ∧
      plan profile pairInputs pairStage = .ok made ∧ made.first.length = 2 ∧
      plan profile (NameTable.ofList otherRecords) pairStage = .ok made ∧
      plan profile (NameTable.ofList otherRecords.reverse) pairStage = .ok made := by
  have accepted : Profile.ofDescription (pairDescription "M") = .ok (pairProfile "M") :=
    rfl
  rcases plan_depends_on_needed accepted with ⟨seen, anyOrder, anyProfileOrder⟩
  have planned : plan (pairProfile "M") pairInputs pairStage =
      .ok { first := [⟨"P3", 1, .on⟩, ⟨"P4", 2, .off⟩], second := [⟨"M", 0, .on⟩] } :=
    rfl
  have agree : AgreeOn ((pairProfile "M").needed pairStage) pairInputs
      (NameTable.ofList otherRecords) := by
    have needed : (pairProfile "M").needed pairStage = ["M", "P3", "P3", "P4"] := rfl
    rw [needed]
    simp only [AgreeOn, List.forall_mem_cons]
    exact ⟨.some ⟨rfl, rfl, rfl, rfl⟩, .some ⟨rfl, rfl, rfl, rfl⟩,
      .some ⟨rfl, rfl, rfl, rfl⟩, .some ⟨rfl, rfl, rfl, rfl⟩, by simp⟩
  have sameView := (seen pairStage _ _ agree).symm.trans planned
  have apart : otherRecords.Pairwise fun earlier later => earlier.1 ≠ later.1 := by
    decide
  have alike := suppliedAlike_of_perm (List.reverse_perm otherRecords).symm apart
  exact ⟨_, _, anyProfileOrder _ (List.Perm.swap _ _ []), planned, rfl, sameView,
    (anyOrder pairStage _ _ alike).symm.trans sameView⟩

end SignalControl
