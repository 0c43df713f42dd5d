import Mathlib.Data.List.Perm.Subperm
import SignalControl.Proofs.PhaseNumber

namespace SignalControl

/-! Which descriptions make a profile, and which one. The phase inputs are placed one
after another, but whether all of them can be, and what comes of it, is said of the
list as a whole and without its order. -/

theorem PhasesPlaced.length_names_le {placed : NameTable Nat}
    (phases : PhasesPlaced placed) : placed.names.length ≤ 8 := by
  have distinct : (placed.entries.map Prod.snd).Nodup := by
    apply List.pairwise_map.mpr
    apply placed.ascending.imp_of_mem
    rintro ⟨left, phase⟩ ⟨right, other⟩ isLeft isRight before equal
    subst equal
    have same := phases.distinct left right phase
      (NameTable.mem_entries_iff.mp isLeft) (NameTable.mem_entries_iff.mp isRight)
    subst same
    exact String.lt_irrefl left before
  have inRange : placed.entries.map Prod.snd ⊆ List.range' 1 8 := by
    intro phase member
    rcases List.mem_map.mp member with ⟨⟨name, number⟩, isEntry, rfl⟩
    have numbered := phases.numbered name number (NameTable.mem_entries_iff.mp isEntry)
    rcases phaseNumber_eq_ok_iff.mp numbered with ⟨-, positive, small⟩
    rw [List.mem_range'_1]
    omega
  have bound := (List.subperm_of_subset distinct inRange).length_le
  simpa [NameTable.names] using bound

namespace Profile

variable {known : NameTable Unit} {placed table : NameTable Nat} {name : String}
  {names left right : List String} {phase : Nat}

/-! ## Placing phase inputs -/

structure Placeable (known : NameTable Unit) (placed : NameTable Nat)
    (names : List String) : Prop where
  known : ∀ name ∈ names, known.contains name = true
  numbered : ∀ name ∈ names, ∃ phase, phaseNumber name = .ok phase
  free : ∀ name ∈ names, ∀ other phase, placed.get? other = some phase →
    phaseNumber name ≠ .ok phase
  distinct : names.Pairwise fun earlier later => phaseNumber earlier ≠ phaseNumber later

theorem placeable_nil : Placeable known placed [] where
  known := by simp
  numbered := by simp
  free := by simp
  distinct := .nil

theorem placeable_cons_iff (phases : PhasesPlaced placed)
    (numbered : phaseNumber name = .ok phase)
    (free : ∀ other, placed.get? other ≠ some phase) :
    Placeable known placed (name :: names) ↔
      known.contains name = true ∧
        Placeable known (placed.insert name phase) names := by
  constructor
  · intro placeable
    have tail : ∀ other ∈ names, other ∈ name :: names :=
      fun other member => List.mem_cons_of_mem name member
    refine ⟨placeable.known name List.mem_cons_self, ?_⟩
    constructor
    case known => exact fun other member => placeable.known other (tail other member)
    case numbered =>
      exact fun other member => placeable.numbered other (tail other member)
    case free =>
      intro later member other number found
      rw [NameTable.get?_insert] at found
      split at found
      next =>
        cases found
        rw [← numbered]
        exact ((List.pairwise_cons.mp placeable.distinct).1 later member).symm
      next => exact placeable.free later (tail later member) other number found
    case distinct => exact (List.pairwise_cons.mp placeable.distinct).2
  · rintro ⟨isKnown, placeable⟩
    constructor
    case known =>
      intro other member
      rcases List.mem_cons.mp member with rfl | later
      · exact isKnown
      · exact placeable.known other later
    case numbered =>
      intro other member
      rcases List.mem_cons.mp member with rfl | later
      · exact ⟨phase, numbered⟩
      · exact placeable.numbered other later
    case free =>
      intro later member other number found same
      rcases List.mem_cons.mp member with rfl | member
      · rw [numbered] at same
        cases same
        exact free other found
      · refine placeable.free later member other number ?_ same
        -- A name that was placed before has the phase it would be placed with now.
        have different : other ≠ name := by
          rintro rfl
          rw [phases.numbered other number found] at numbered
          cases numbered
          exact free other found
        rw [NameTable.get?_insert_other _ _ different]
        exact found
    case distinct =>
      refine List.pairwise_cons.mpr ⟨?_, placeable.distinct⟩
      intro later member same
      exact placeable.free later member name phase (placed.get?_insert_same name phase)
        (same.symm.trans numbered)

theorem placeStages_eq_ok_iff (phases : PhasesPlaced placed) :
    placeStages known placed names = .ok table ↔
      Placeable known placed names ∧ ∀ name, table.get? name =
        if name ∈ names then (phaseNumber name).toOption else placed.get? name := by
  induction names generalizing placed with
  | nil =>
      simp only [placeStages, Except.ok.injEq, placeable_nil, true_and, List.not_mem_nil,
        if_false]
      constructor
      · rintro rfl name
        rfl
      · intro same
        exact NameTable.ext_get? fun name => (same name).symm
  | cons name rest induction =>
      rw [placeStages_cons_eq_ok_iff]
      constructor
      · rintro ⟨isKnown, phase, numbered, free, placedRest⟩
        have further := phasesPlaced_insert phases numbered free
        rcases (induction further).mp placedRest with ⟨placeable, lookups⟩
        refine ⟨(placeable_cons_iff phases numbered free).mpr ⟨isKnown, placeable⟩, ?_⟩
        intro other
        rw [lookups, NameTable.get?_insert]
        by_cases here : other = name
        · subst here
          simp [numbered, Except.toOption]
        · simp [here]
      · rintro ⟨placeable, lookups⟩
        rcases placeable.numbered name List.mem_cons_self with ⟨phase, numbered⟩
        have free : ∀ other, placed.get? other ≠ some phase := fun other found =>
          placeable.free name List.mem_cons_self other phase found numbered
        rcases (placeable_cons_iff phases numbered free).mp placeable with
          ⟨isKnown, later⟩
        refine ⟨isKnown, phase, numbered, free, ?_⟩
        apply (induction (phasesPlaced_insert phases numbered free)).mpr
        refine ⟨later, ?_⟩
        intro other
        rw [lookups, NameTable.get?_insert]
        by_cases here : other = name
        · subst here
          simp [numbered, Except.toOption]
        · simp [here]

theorem placeStages_of_perm (phases : PhasesPlaced placed) (reordered : right.Perm left)
    (accepted : placeStages known placed left = .ok table) :
    placeStages known placed right = .ok table := by
  rcases (placeStages_eq_ok_iff phases).mp accepted with ⟨placeable, lookups⟩
  refine (placeStages_eq_ok_iff phases).mpr ⟨?_, ?_⟩
  · constructor
    case known =>
      exact fun name member => placeable.known name (reordered.mem_iff.mp member)
    case numbered =>
      exact fun name member => placeable.numbered name (reordered.mem_iff.mp member)
    case free =>
      exact fun name member => placeable.free name (reordered.mem_iff.mp member)
    case distinct =>
      exact (reordered.pairwise_iff fun different => different.symm).mpr
        placeable.distinct
  · intro name
    rw [lookups]
    simp only [reordered.mem_iff]

/-! ## Accepted descriptions -/

variable {description : ProfileDescription} {profile : Profile}

theorem ofDescription_known (accepted : ofDescription description = .ok profile) :
    profile.inputs.contains profile.manual = true ∧
      ∀ name ∈ profile.stageInputs.names, profile.inputs.contains name = true := by
  rcases ofDescription_eq_ok_iff.mp accepted with ⟨isKnown, stageInputs, placed, rfl⟩
  rcases (placeStages_eq_ok_iff phasesPlaced_empty).mp placed with ⟨placeable, lookups⟩
  refine ⟨isKnown, ?_⟩
  intro name isStage
  apply placeable.known name
  by_contra absent
  rcases NameTable.mem_names_iff.mp isStage with ⟨phase, found⟩
  rw [lookups, if_neg absent] at found
  cases found

theorem ofDescription_of_perm (accepted : ofDescription description = .ok profile)
    {stages : List String} (reordered : stages.Perm description.stages) :
    ofDescription { description with stages := stages } = .ok profile := by
  rcases ofDescription_eq_ok_iff.mp accepted with ⟨isKnown, stageInputs, placed, rfl⟩
  exact ofDescription_eq_ok_iff.mpr ⟨isKnown, stageInputs,
    placeStages_of_perm phasesPlaced_empty reordered placed, rfl⟩

end Profile

end SignalControl
