import SignalControl.Profile

namespace SignalControl

/-! The phases of an accepted profile. Each phase input has the phase that its own
name ends in, and no two of them share one. -/

theorem phaseNumber_eq_ok_iff {name : String} {phase : Nat} :
    phaseNumber name = .ok phase ↔
      Text.numeral? (Text.trailingDigits name.toList) = some phase ∧
        1 ≤ phase ∧ phase ≤ 8 := by
  rw [phaseNumber]
  split
  next absent =>
    constructor
    · intro impossible
      cases impossible
    · rintro ⟨found, -⟩
      rw [absent] at found
      cases found
  next number found =>
    rw [found, Option.some.injEq]
    constructor
    · intro accepted
      split at accepted
      next => cases accepted
      next =>
        split at accepted
        next => cases accepted
        next inRange =>
          have equal := Except.ok.inj accepted
          simp only [Stage.last] at inRange
          omega
    · rintro ⟨rfl, positive, small⟩
      have fits : ¬ 255 < number := by omega
      have inRange : ¬ (number = 0 ∨ Stage.last < number) := by
        simp only [Stage.last]
        omega
      rw [if_neg fits, if_neg inRange]

def EndsIn (name : String) (number : Nat) : Prop :=
  ∃ opening digits, name.toList = opening ++ digits ∧ digits ≠ [] ∧
    (∀ digit ∈ digits, digit.isDigit = true) ∧
    (∀ last ∈ opening.getLast?, last.isDigit = false) ∧
    Nat.ofDigitChars 10 digits 0 = number

theorem numeral?_trailingDigits_iff {name : String} {number : Nat} :
    Text.numeral? (Text.trailingDigits name.toList) = some number ↔
      EndsIn name number := by
  rw [Text.numeral?_eq_some_iff, Text.digitsValue_eq_ofDigitChars]
  constructor
  · rintro ⟨nonempty, -, value⟩
    rcases Text.trailingDigits_eq_iff.mp rfl with ⟨opening, name, digits, stop⟩
    exact ⟨opening, _, name, nonempty, digits, stop, value⟩
  · rintro ⟨opening, digits, name, nonempty, digitsOnly, stop, value⟩
    rw [Text.trailingDigits_eq_iff.mpr ⟨opening, name, digitsOnly, stop⟩]
    exact ⟨nonempty, digitsOnly, value⟩

theorem EndsIn.unique {name : String} {number other : Nat} (ends : EndsIn name number)
    (others : EndsIn name other) : number = other := by
  rw [← numeral?_trailingDigits_iff] at ends others
  exact Option.some.inj (ends.symm.trans others)

theorem phaseNumber_eq_ok_iff_endsIn {name : String} {phase : Nat} :
    phaseNumber name = .ok phase ↔ EndsIn name phase ∧ 1 ≤ phase ∧ phase ≤ 8 := by
  rw [phaseNumber_eq_ok_iff, numeral?_trailingDigits_iff]

/-- A name has another phase than one with a phase exactly if they do not end in one
number. -/
theorem phaseNumber_ne_iff {name other : String} {phase : Nat}
    (numbered : phaseNumber name = .ok phase) :
    phaseNumber name ≠ phaseNumber other ↔
      ∀ number, EndsIn name number → ¬ EndsIn other number := by
  rcases phaseNumber_eq_ok_iff_endsIn.mp numbered with ⟨ends, inRange⟩
  constructor
  · intro different number alsoEnds otherEnds
    have same := alsoEnds.unique ends
    subst same
    exact different
      (numbered.trans (phaseNumber_eq_ok_iff_endsIn.mpr ⟨otherEnds, inRange⟩).symm)
  · intro different same
    rw [numbered] at same
    exact different phase ends (phaseNumber_eq_ok_iff_endsIn.mp same.symm).1

/-! ## Placing phase inputs -/

structure PhasesPlaced (placed : NameTable Nat) : Prop where
  numbered : ∀ name phase, placed.get? name = some phase →
    phaseNumber name = .ok phase
  distinct : ∀ left right phase, placed.get? left = some phase →
    placed.get? right = some phase → left = right

namespace Profile

variable {known : NameTable Unit} {placed table : NameTable Nat} {name : String}
  {names : List String} {phase : Nat}

theorem holder?_eq_none_iff :
    holder? placed phase = none ↔ ∀ name, placed.get? name ≠ some phase := by
  rw [holder?, Option.map_eq_none_iff, List.find?_eq_none]
  simp only [beq_iff_eq]
  constructor
  · intro absent name found
    exact absent (name, phase) (NameTable.mem_entries_iff.mpr found) rfl
  · rintro absent ⟨name, number⟩ member rfl
    exact absent name (NameTable.mem_entries_iff.mp member)

theorem placeStages_cons_eq_ok_iff :
    placeStages known placed (name :: names) = .ok table ↔
      known.contains name = true ∧ ∃ phase, phaseNumber name = .ok phase ∧
        (∀ other, placed.get? other ≠ some phase) ∧
        placeStages known (placed.insert name phase) names = .ok table := by
  rw [placeStages]
  cases isKnown : known.contains name with
  | false => simp
  | true =>
      cases numbered : phaseNumber name with
      | error error => simp
      | ok phase =>
          simp only [if_true, true_and, Except.ok.injEq, exists_eq_left',
            ← holder?_eq_none_iff]
          cases holder? placed phase with
          | some earlier => simp
          | none => simp

theorem phasesPlaced_empty : PhasesPlaced .empty where
  numbered := by simp
  distinct := by simp

theorem phasesPlaced_insert (phases : PhasesPlaced placed)
    (numbered : phaseNumber name = .ok phase)
    (free : ∀ other, placed.get? other ≠ some phase) :
    PhasesPlaced (placed.insert name phase) where
  numbered := by
    intro other number found
    rw [NameTable.get?_insert] at found
    split at found
    next same =>
      cases found
      rw [same]
      exact numbered
    next => exact phases.numbered other number found
  distinct := by
    intro left right number foundLeft foundRight
    rw [NameTable.get?_insert] at foundLeft foundRight
    split at foundLeft
    next leftSame =>
      cases foundLeft
      split at foundRight
      next rightSame => rw [leftSame, rightSame]
      next => exact absurd foundRight (free right)
    next =>
      split at foundRight
      next =>
        cases foundRight
        exact absurd foundLeft (free left)
      next => exact phases.distinct left right number foundLeft foundRight

theorem placeStages_phasesPlaced (phases : PhasesPlaced placed)
    (accepted : placeStages known placed names = .ok table) :
    PhasesPlaced table := by
  induction names generalizing placed with
  | nil =>
      cases accepted
      exact phases
  | cons name rest induction =>
      rcases placeStages_cons_eq_ok_iff.mp accepted with
        ⟨-, phase, numbered, free, placedRest⟩
      exact induction (phasesPlaced_insert phases numbered free) placedRest

/-! ## Accepted descriptions -/

section

variable {description : ProfileDescription} {profile : Profile}

theorem ofDescription_eq_ok_iff :
    ofDescription description = .ok profile ↔
      (inputSet description.inputs).contains description.manual = true ∧
        ∃ stageInputs,
          placeStages (inputSet description.inputs) .empty description.stages =
            .ok stageInputs ∧
          profile =
            { inputs := inputSet description.inputs
              stageInputs := stageInputs
              manual := description.manual
              phasePrefix := description.phasePrefix
              fieldPrefix := description.fieldPrefix
              credentials := description.credentials } := by
  simp only [ofDescription]
  split
  next isKnown =>
    cases placed : placeStages (inputSet description.inputs) .empty description.stages with
    | error error => simp
    | ok stageInputs => simp [isKnown, eq_comm]
  next unknown => simp [unknown]

theorem ofDescription_phasesPlaced (accepted : ofDescription description = .ok profile) :
    PhasesPlaced profile.stageInputs := by
  rcases ofDescription_eq_ok_iff.mp accepted with ⟨-, stageInputs, placed, rfl⟩
  exact placeStages_phasesPlaced phasesPlaced_empty placed

end

/-! ## Names that a phase prefix makes -/

/-- Whatever digits the prefix ends in, they cannot make up another phase. -/
theorem eq_of_phaseNumber_phaseInput {profile : Profile} {stage : Stage}
    (numbered : phaseNumber (profile.phaseInput stage.number) = .ok phase) :
    phase = stage.number := by
  have small := stage.inRange
  have name : (profile.phaseInput stage.number).toList =
      profile.phasePrefix.toList ++ [stage.number.digitChar] := by
    rw [phaseInput, String.toList_append, Nat.toString_eq_repr, Nat.toList_repr,
      Nat.toDigits_of_lt_base (by omega)]
  have isDigit : stage.number.digitChar.isDigit = true := by
    rw [Nat.isDigit_digitChar, decide_eq_true_eq]
    omega
  have value : Text.digitValue stage.number.digitChar = stage.number :=
    Nat.toNat_digitChar_sub_48_of_lt_ten (by omega)
  rcases phaseNumber_eq_ok_iff.mp numbered with ⟨denotes, positive, inRange⟩
  rw [name, Text.trailingDigits_concat isDigit, Text.numeral?_eq_some_iff,
    Text.digitsValue_concat, value] at denotes
  omega

end Profile

end SignalControl
