import SignalControl.Proofs.DescribedProfile
import SignalControl.Proofs.Fallible

namespace SignalControl

/-! Why a description is refused. The override is looked at before the phase inputs. Of
those, the first one that has no place behind the earlier ones decides the error, and
the ones after it are not looked at. -/

namespace ProfileDescription

def Unplaceable (inputs earlier : List String) (name : String) : Prop :=
  name ∉ inputs ∨ (∃ error, phaseNumber name = .error error) ∨
    ∃ other ∈ earlier, ∃ phase,
      phaseNumber other = .ok phase ∧ phaseNumber name = .ok phase

/-- The name comes right behind the earlier ones, and is the first in the list of phase
inputs that has no place behind those before it. -/
structure FirstUnplaceable (inputs stages earlier : List String)
    (name : String) : Prop where
  stands : earlier ++ [name] <+: stages
  first : ∀ before other, before ++ [other] <+: earlier → ¬ Unplaceable inputs before other
  unplaceable : Unplaceable inputs earlier name

/-- The error for a phase input without a place. A phase that is taken is held by one
earlier phase input and no other. -/
inductive RefusedAs (inputs earlier : List String) (name : String) : ProfileError → Prop
  | unlisted (absent : name ∉ inputs) :
      RefusedAs inputs earlier name (.stageNotInInputs name)
  | unnumbered (listed : name ∈ inputs) (failed : phaseNumber name = .error error) :
      RefusedAs inputs earlier name error
  | taken (listed : name ∈ inputs) (numbered : phaseNumber name = .ok phase)
      (holder : earlier = before ++ other :: between)
      (holds : phaseNumber other = .ok phase)
      (only : ∀ another ∈ before ++ between, phaseNumber another ≠ .ok phase) :
      RefusedAs inputs earlier name (.duplicatePhase other name)

end ProfileDescription

namespace Profile

open ProfileDescription

variable {known : NameTable Unit} {placed table : NameTable Nat}
  {inputs names earlier left right : List String} {name other : String} {phase : Nat}
  {error : ProfileError} {description : ProfileDescription}

/-! ## Placing part of a list -/

theorem placeStages_append :
    placeStages known placed (left ++ right) =
      placeStages known placed left >>= fun table => placeStages known table right := by
  induction left generalizing placed with
  | nil => rfl
  | cons name rest induction =>
      simp only [List.cons_append, placeStages]
      split
      next =>
        split
        next => rfl
        next =>
          split
          next => rfl
          next => exact induction
      next => rfl

/-- Placing fails at one phase input, after all those before it have been placed. -/
theorem placeStages_eq_error_iff :
    placeStages known placed names = .error error ↔
      ∃ earlier name table, earlier ++ [name] <+: names ∧
        placeStages known placed earlier = .ok table ∧
        placeStages known table [name] = .error error := by
  constructor
  · intro failed
    induction names generalizing placed with
    | nil => cases failed
    | cons name rest induction =>
        rw [← List.singleton_append, placeStages_append, bind_eq_error_iff] at failed
        rcases failed with here | ⟨table, done, later⟩
        · exact ⟨[], name, placed, ⟨rest, rfl⟩, rfl, here⟩
        · rcases induction later with ⟨earlier, other, last, stands, before, atOther⟩
          refine ⟨name :: earlier, other, last, ?_, ?_, atOther⟩
          · exact List.cons_prefix_cons.mpr ⟨rfl, stands⟩
          · rw [← List.singleton_append, placeStages_append, done]
            exact before
  · intro ⟨earlier, name, table, ⟨later, stands⟩, before, atName⟩
    rw [← stands, placeStages_append, placeStages_append, before]
    change (placeStages known table [name] >>= _) = _
    rw [atName]
    rfl

/-! ## The place of one phase input -/

theorem get?_of_holder? (found : holder? placed phase = some other) :
    placed.get? other = some phase := by
  rw [holder?, Option.map_eq_some_iff] at found
  rcases found with ⟨⟨name, number⟩, isFirst, equal⟩
  have sameNumber : number = phase := by simpa using List.find?_some isFirst
  subst equal sameNumber
  exact NameTable.mem_entries_iff.mp (List.mem_of_find?_eq_some isFirst)

theorem holder?_eq_some_iff (phases : PhasesPlaced placed) :
    holder? placed phase = some other ↔ placed.get? other = some phase := by
  constructor
  · exact get?_of_holder?
  · intro isPlaced
    cases found : holder? placed phase with
    | none => exact absurd isPlaced (holder?_eq_none_iff.mp found other)
    | some another =>
        rw [phases.distinct another other phase (get?_of_holder? found) isPlaced]

theorem get?_eq_some_iff_of_placed (done : placeStages known .empty names = .ok table) :
    table.get? other = some phase ↔ other ∈ names ∧ phaseNumber other = .ok phase := by
  rcases (placeStages_eq_ok_iff phasesPlaced_empty).mp done with ⟨-, lookups⟩
  rw [lookups]
  cases numbered : phaseNumber other with
  | error error => simp [Except.toOption]
  | ok number => simp [Except.toOption]

theorem refusedAs_duplicatePhase (done : placeStages known .empty earlier = .ok table)
    (listed : name ∈ inputs) (numbered : phaseNumber name = .ok phase)
    (member : other ∈ earlier) (holds : phaseNumber other = .ok phase) :
    RefusedAs inputs earlier name (.duplicatePhase other name) := by
  rcases (placeStages_eq_ok_iff phasesPlaced_empty).mp done with ⟨placeable, -⟩
  rcases List.append_of_mem member with ⟨before, between, holder⟩
  have apart := placeable.distinct
  rw [holder, List.pairwise_middle fun different => different.symm] at apart
  refine .taken listed numbered holder holds ?_
  intro another isOther same
  exact (List.pairwise_cons.mp apart).1 another isOther (holds.trans same.symm)

theorem placeStages_singleton_eq_error_iff
    (done : placeStages (inputSet inputs) .empty earlier = .ok table) :
    placeStages (inputSet inputs) table [name] = .error error ↔
      RefusedAs inputs earlier name error := by
  have phases := placeStages_phasesPlaced phasesPlaced_empty done
  rw [placeStages]
  constructor
  · intro failed
    split at failed
    next isKnown =>
      have listed := contains_inputSet_iff.mp isKnown
      split at failed
      next numberError unnumbered =>
        cases failed
        exact .unnumbered listed unnumbered
      next phase numbered =>
        split at failed
        next other held =>
          cases failed
          have isPlaced := get?_of_holder? held
          rcases (get?_eq_some_iff_of_placed done).mp isPlaced with ⟨member, holds⟩
          exact refusedAs_duplicatePhase done listed numbered member holds
        next => cases failed
    next unknown =>
      cases failed
      exact .unlisted (mt contains_inputSet_iff.mpr unknown)
  · intro refused
    cases refused with
    | unlisted absent => rw [if_neg (mt contains_inputSet_iff.mp absent)]
    | unnumbered listed unnumbered =>
        rw [if_pos (contains_inputSet_iff.mpr listed), unnumbered]
    | taken listed numbered holder holds only =>
        have member := holder ▸ List.mem_append_right _ List.mem_cons_self
        have isPlaced := (get?_eq_some_iff_of_placed done).mpr ⟨member, holds⟩
        rw [if_pos (contains_inputSet_iff.mpr listed), numbered]
        simp only [(holder?_eq_some_iff phases).mpr isPlaced]

theorem unplaceable_iff_refusedAs
    (done : placeStages (inputSet inputs) .empty earlier = .ok table) :
    Unplaceable inputs earlier name ↔ ∃ error, RefusedAs inputs earlier name error := by
  constructor
  · intro unplaceable
    by_cases listed : name ∈ inputs
    · rcases unplaceable with absent | ⟨error, failed⟩ | ⟨other, member, phase, holds, numbered⟩
      · exact absurd listed absent
      · exact ⟨error, .unnumbered listed failed⟩
      · exact ⟨_, refusedAs_duplicatePhase done listed numbered member holds⟩
    · exact ⟨_, .unlisted listed⟩
  · intro ⟨error, refused⟩
    cases refused with
    | unlisted absent => exact .inl absent
    | unnumbered listed failed => exact .inr (.inl ⟨error, failed⟩)
    | taken listed numbered holder holds only =>
        have member := holder ▸ List.mem_append_right _ List.mem_cons_self
        exact .inr (.inr ⟨_, member, _, holds, numbered⟩)

/-! ## The first phase input without a place -/

theorem exists_placed_iff :
    (∃ table, placeStages (inputSet inputs) .empty names = .ok table) ↔
      ∀ earlier name, earlier ++ [name] <+: names → ¬ Unplaceable inputs earlier name := by
  constructor
  · intro ⟨table, done⟩ earlier name ⟨later, stands⟩ unplaceable
    rw [← stands, placeStages_append, placeStages_append, bind_eq_ok_iff] at done
    rcases done with ⟨last, doneName, -⟩
    rcases bind_eq_ok_iff.mp doneName with ⟨before, doneEarlier, placedName⟩
    rcases (unplaceable_iff_refusedAs doneEarlier).mp unplaceable with ⟨error, refused⟩
    rw [(placeStages_singleton_eq_error_iff doneEarlier).mpr refused] at placedName
    cases placedName
  · intro allPlaced
    cases result : placeStages (inputSet inputs) .empty names with
    | ok table => exact ⟨table, rfl⟩
    | error error =>
        rcases placeStages_eq_error_iff.mp result with
          ⟨earlier, name, before, stands, doneEarlier, failed⟩
        have refused := (placeStages_singleton_eq_error_iff doneEarlier).mp failed
        exact absurd ((unplaceable_iff_refusedAs doneEarlier).mpr ⟨error, refused⟩)
          (allPlaced earlier name stands)

theorem placeStages_eq_error_iff_first :
    placeStages (inputSet inputs) .empty names = .error error ↔
      ∃ earlier name, FirstUnplaceable inputs names earlier name ∧
        RefusedAs inputs earlier name error := by
  rw [placeStages_eq_error_iff]
  constructor
  · intro ⟨earlier, name, table, stands, done, failed⟩
    have refused := (placeStages_singleton_eq_error_iff done).mp failed
    refine ⟨earlier, name, ⟨stands, exists_placed_iff.mp ⟨table, done⟩, ?_⟩, refused⟩
    exact (unplaceable_iff_refusedAs done).mpr ⟨error, refused⟩
  · intro ⟨earlier, name, first, refused⟩
    rcases exists_placed_iff.mpr first.first with ⟨table, done⟩
    exact ⟨earlier, name, table, first.stands, done,
      (placeStages_singleton_eq_error_iff done).mpr refused⟩

/-! ## Refused descriptions -/

theorem ofDescription_of_unlisted (unlisted : description.manual ∉ description.inputs) :
    ofDescription description = .error (.manualNotInInputs description.manual) := by
  rw [ofDescription, if_neg (mt contains_inputSet_iff.mp unlisted)]

theorem ofDescription_eq_error_iff (listed : description.manual ∈ description.inputs) :
    ofDescription description = .error error ↔
      ∃ earlier name,
        FirstUnplaceable description.inputs description.stages earlier name ∧
        RefusedAs description.inputs earlier name error := by
  rw [← placeStages_eq_error_iff_first, ofDescription, if_pos (contains_inputSet_iff.mpr listed)]
  cases placeStages (inputSet description.inputs) .empty description.stages with
  | error other => simp
  | ok table => simp

theorem ofDescription_of_first
    (first : FirstUnplaceable description.inputs description.stages earlier name)
    (later : List String) :
    ofDescription { description with stages := earlier ++ name :: later } =
      ofDescription description := by
  by_cases listed : description.manual ∈ description.inputs
  · rcases exists_placed_iff.mpr first.first with ⟨table, done⟩
    rcases (unplaceable_iff_refusedAs done).mp first.unplaceable with ⟨error, refused⟩
    have stands : earlier ++ [name] <+: earlier ++ name :: later := ⟨later, by simp⟩
    have changed : FirstUnplaceable description.inputs (earlier ++ name :: later) earlier
        name := ⟨stands, first.first, first.unplaceable⟩
    have failed := (ofDescription_eq_error_iff listed).mpr ⟨earlier, name, first, refused⟩
    rw [failed, ofDescription_eq_error_iff]
    · exact ⟨earlier, name, changed, refused⟩
    · exact listed
  · rw [ofDescription_of_unlisted listed, ofDescription_of_unlisted]
    exact listed

/-- A description without its override among the inputs is refused for that, whatever its
phase inputs are. Any other one is refused exactly if some phase input has no place
behind the earlier ones, the first such decides the error, and the phase inputs behind
it could be any. -/
theorem ofDescription_refuses (description : ProfileDescription) :
    (description.manual ∉ description.inputs → ∀ stages,
      ofDescription { description with stages := stages } =
        .error (.manualNotInInputs description.manual)) ∧
    (description.manual ∈ description.inputs → ∀ error,
      ofDescription description = .error error ↔
        ∃ earlier name,
          FirstUnplaceable description.inputs description.stages earlier name ∧
          RefusedAs description.inputs earlier name error) ∧
    ∀ earlier name,
      FirstUnplaceable description.inputs description.stages earlier name →
      ∀ later, ofDescription { description with stages := earlier ++ name :: later } =
        ofDescription description := by
  refine ⟨?_, ?_, ?_⟩
  · intro unlisted stages
    exact ofDescription_of_unlisted unlisted
  · intro listed error
    exact ofDescription_eq_error_iff listed
  · intro earlier name first later
    exact ofDescription_of_first first later

/-! ## A padded number that is taken

The third phase input has the phase of the second one, which is written with a zero. The
fourth one would be refused as well. -/

def clashDescription : ProfileDescription where
  inputs := ["M", "A1", "B02", "x2"]
  stages := ["A1", "B02", "x2", "C9"]
  manual := "M"
  phasePrefix := "A"
  fieldPrefix := "R"
  credentials := ⟨"", ""⟩

theorem clash_ofDescription_refuses :
    FirstUnplaceable clashDescription.inputs clashDescription.stages ["A1", "B02"] "x2" ∧
      ofDescription clashDescription = .error (.duplicatePhase "B02" "x2") ∧
      ofDescription { clashDescription with stages := ["A1", "B02", "x2", "A1"] } =
        .error (.duplicatePhase "B02" "x2") ∧
      ofDescription { clashDescription with manual := "C9" } =
        .error (.manualNotInInputs "C9") := by
  have first : FirstUnplaceable clashDescription.inputs clashDescription.stages
      ["A1", "B02"] "x2" := by
    refine ⟨⟨["C9"], rfl⟩, exists_placed_iff.mp ⟨_, rfl⟩, .inr (.inr ?_)⟩
    exact ⟨"B02", by decide, 2, rfl, rfl⟩
  have refused : RefusedAs clashDescription.inputs ["A1", "B02"] "x2"
      (.duplicatePhase "B02" "x2") := by
    have holder : ["A1", "B02"] = ["A1"] ++ "B02" :: [] := rfl
    refine .taken (by decide) rfl holder rfl ?_
    intro another member same
    rw [List.append_nil, List.mem_singleton] at member
    subst member
    cases same
  rcases ofDescription_refuses clashDescription with ⟨-, byPlace, anyLater⟩
  have failed := (byPlace (by decide) _).mpr ⟨_, _, first, refused⟩
  refine ⟨first, failed, (anyLater _ _ first ["A1"]).trans failed, ?_⟩
  exact (ofDescription_refuses { clashDescription with manual := "C9" }).1 (by decide) _

end Profile

end SignalControl
