import SignalControl.Proofs.PhaseNumber

namespace SignalControl

/-! The phase that a name ends in, for any name. The digits are found from the end, by the
offsets of characters in the UTF-8 form of the name, and what is read is the rest of the
name from the offset of the first of them. -/

namespace Text

/-- Of the endings of a text that consist of ASCII digits, the one that includes all. -/
structure DigitEnding (text digits : List Char) : Prop where
  ends : digits <:+ text
  digitsOnly : ∀ digit ∈ digits, digit.isDigit = true
  longest : ∀ other, other <:+ text → (∀ digit ∈ other, digit.isDigit = true) →
    other <:+ digits

theorem digitEnding_trailingDigits (text : List Char) :
    DigitEnding text (trailingDigits text) := by
  rcases trailingDigits_eq_iff.mp (rfl : trailingDigits text = _) with
    ⟨opening, split, digitsOnly, -⟩
  refine ⟨⟨opening, split.symm⟩, digitsOnly, ?_⟩
  intro other ⟨before, ends⟩ otherDigits
  rw [← ends, trailingDigits_append otherDigits]
  exact List.suffix_append (trailingDigits before) other

theorem digitEnding_iff {text digits : List Char} :
    DigitEnding text digits ↔ digits = trailingDigits text := by
  have run := digitEnding_trailingDigits text
  constructor
  · intro ending
    have within := run.longest digits ending.ends ending.digitsOnly
    have around := ending.longest (trailingDigits text) run.ends run.digitsOnly
    exact within.eq_of_length_le around.length_le
  · intro equal
    rw [equal]
    exact run

/-! ## Offsets -/

def charOffsets : Nat → List Char → List (Nat × Char)
  | _, [] => []
  | offset, character :: rest =>
      (offset, character) :: charOffsets (offset + character.utf8Size) rest

def digitsStart? (text : String) : Option Nat :=
  let digits := (charOffsets 0 text.toList).reverse.takeWhile fun entry => entry.2.isDigit
  digits.getLast?.map Prod.fst

def sliceFrom? (text : String) (offset : Nat) : Option String :=
  if valid : (String.Pos.Raw.mk offset).IsValid text then
    some (text.sliceFrom (text.pos ⟨offset⟩ valid)).copy
  else none

theorem map_snd_charOffsets (offset : Nat) (text : List Char) :
    (charOffsets offset text).map Prod.snd = text := by
  induction text generalizing offset with
  | nil => rfl
  | cons character rest induction => rw [charOffsets, List.map_cons, induction]

theorem length_charOffsets (offset : Nat) (text : List Char) :
    (charOffsets offset text).length = text.length := by
  rw [← List.length_map Prod.snd, map_snd_charOffsets]

theorem head?_charOffsets (offset : Nat) (text : List Char) :
    (charOffsets offset text).head?.map Prod.fst = text.head?.map fun _ => offset := by
  cases text with
  | nil => rfl
  | cons character rest => rfl

theorem charOffsets_append (offset : Nat) (opening rest : List Char) :
    charOffsets offset (opening ++ rest) =
      charOffsets offset opening ++
        charOffsets (offset + (String.ofList opening).utf8ByteSize) rest := by
  induction opening generalizing offset with
  | nil => rfl
  | cons character others induction =>
      have size : (String.ofList (character :: others)).utf8ByteSize =
          character.utf8Size + (String.ofList others).utf8ByteSize := by
        rw [← List.singleton_append, String.ofList_append, String.utf8ByteSize_append,
          ← String.singleton_eq_ofList, String.utf8ByteSize_singleton]
      rw [List.cons_append, charOffsets, induction, size, Nat.add_assoc, charOffsets,
        List.cons_append]

theorem sliceFrom?_eq_some_iff {text rest : String} {offset : Nat} :
    sliceFrom? text offset = some rest ↔
      ∃ opening, text = opening ++ rest ∧ opening.utf8ByteSize = offset := by
  constructor
  · intro sliced
    rw [sliceFrom?] at sliced
    split at sliced
    next valid =>
      have splits := (text.pos ⟨offset⟩ valid).splits
      rw [Option.some.inj sliced] at splits
      have size := congrArg String.Pos.Raw.byteIdx splits.offset_eq_rawEndPos
      exact ⟨_, splits.eq_append, size.symm⟩
    next => cases sliced
  · intro ⟨opening, joined, size⟩
    subst joined size
    have valid : (String.Pos.Raw.mk opening.utf8ByteSize).IsValid (opening ++ rest) :=
      String.Pos.Raw.isValid_iff_exists_append.mpr ⟨opening, rest, rfl, rfl⟩
    have splits :
        ((opening ++ rest).pos ⟨opening.utf8ByteSize⟩ valid).Splits opening rest :=
      ⟨rfl, rfl⟩
    rw [sliceFrom?, dif_pos valid, splits.copy_sliceFrom_eq]

example : sliceFrom? "шb" 1 = none := by decide

theorem takeWhile_charOffsets {text opening digits : List Char}
    (run : trailingDigits text = digits) (joined : opening ++ digits = text) :
    ((charOffsets 0 text).reverse.takeWhile fun entry => entry.2.isDigit).reverse =
      charOffsets (String.ofList opening).utf8ByteSize digits := by
  -- Both are endings of one list, and they are equally long.
  let scanned := (charOffsets 0 text).reverse.takeWhile fun entry => entry.2.isDigit
  let runOffsets := charOffsets (String.ofList opening).utf8ByteSize digits
  have characters : text.reverse.takeWhile Char.isDigit = scanned.map Prod.snd := by
    have reversed : text.reverse = (charOffsets 0 text).reverse.map Prod.snd := by
      rw [List.map_reverse, map_snd_charOffsets]
    rw [reversed, List.takeWhile_map]
    rfl
  have sameLength : scanned.reverse.length = runOffsets.length := by
    rw [length_charOffsets, ← run, trailingDigits, characters, List.length_reverse,
      List.length_reverse, List.length_map]
  have scannedEnds : scanned.reverse <:+ charOffsets 0 text := by
    rw [← List.reverse_prefix, List.reverse_reverse]
    exact List.takeWhile_prefix _
  have runEnds : runOffsets <:+ charOffsets 0 text := by
    rw [← joined, charOffsets_append, Nat.zero_add]
    exact List.suffix_append _ runOffsets
  have within := List.suffix_of_suffix_length_le scannedEnds runEnds (Nat.le_of_eq sameLength)
  exact within.eq_of_length sameLength

theorem digitsStart?_eq {text : String} {opening digits : List Char}
    (run : trailingDigits text.toList = digits) (joined : opening ++ digits = text.toList) :
    digitsStart? text = digits.head?.map fun _ => (String.ofList opening).utf8ByteSize := by
  rw [digitsStart?, ← List.head?_reverse, takeWhile_charOffsets run joined, head?_charOffsets]

theorem digitsStart?_eq_none_iff {text : String} :
    digitsStart? text = none ↔ trailingDigits text.toList = [] := by
  rcases (digitEnding_trailingDigits text.toList).ends with ⟨opening, joined⟩
  rw [digitsStart?_eq rfl joined, Option.map_eq_none_iff, List.head?_eq_none_iff]

/-- The slice behind the scan is the run of digits, so it begins between two
characters. -/
theorem sliceFrom?_digitsStart {text : String} {start : Nat}
    (found : digitsStart? text = some start) :
    sliceFrom? text start = some (String.ofList (trailingDigits text.toList)) := by
  rcases (digitEnding_trailingDigits text.toList).ends with ⟨opening, joined⟩
  rw [digitsStart?_eq rfl joined, Option.map_eq_some_iff] at found
  rcases found with ⟨_, _, begins⟩
  refine sliceFrom?_eq_some_iff.mpr ⟨String.ofList opening, ?_, begins⟩
  rw [← String.ofList_append, joined, String.ofList_toList]

/-! ## Values -/

theorem numeral?_of_digits {digits : List Char} (nonempty : digits ≠ [])
    (digitsOnly : ∀ digit ∈ digits, digit.isDigit = true) :
    numeral? digits = some (Nat.ofDigitChars 10 digits 0) :=
  numeral?_eq_some_iff.mpr ⟨nonempty, digitsOnly, digitsValue_eq_ofDigitChars digits⟩

theorem numberBelow?_of_digits {digits : List Char} (nonempty : digits ≠ [])
    (digitsOnly : ∀ digit ∈ digits, digit.isDigit = true) (limit : Nat) :
    numberBelow? limit digits =
      if Nat.ofDigitChars 10 digits 0 < limit then some (Nat.ofDigitChars 10 digits 0)
      else none := by
  rw [numberBelow?, signedNumeral?_of_digits nonempty digitsOnly,
    digitsValue_eq_ofDigitChars, Option.filter_some]
  simp only [decide_eq_true_eq]

end Text

/-! ## Phases -/

theorem phaseNumber_of_no_digits {name : String}
    (none : Text.trailingDigits name.toList = []) :
    phaseNumber name = .error (.missingPhaseNumber name) := by
  rw [phaseNumber, none]
  rfl

theorem phaseNumber_of_digits {name : String} {digits : List Char}
    (run : Text.trailingDigits name.toList = digits) (nonempty : digits ≠ []) :
    phaseNumber name =
      if 255 < Nat.ofDigitChars 10 digits 0 then .error (.missingPhaseNumber name)
      else if Nat.ofDigitChars 10 digits 0 = 0 ∨ 8 < Nat.ofDigitChars 10 digits 0 then
        .error (.phaseOutOfRange name (Nat.ofDigitChars 10 digits 0))
      else .ok (Nat.ofDigitChars 10 digits 0) := by
  have digitsOnly := (Text.digitEnding_iff.mpr run.symm).digitsOnly
  rw [phaseNumber, run, Text.numeral?_of_digits nonempty digitsOnly]
  rfl

/-- The reading by offsets. A slice from within a character would have no result. -/
def slicedPhase? (name : String) : Option (Except ProfileError Nat) :=
  match Text.digitsStart? name with
  | none => some (.error (.missingPhaseNumber name))
  | some start =>
      (Text.sliceFrom? name start).map fun digits =>
        match Text.numberBelow? 256 digits.toList with
        | none => .error (.missingPhaseNumber name)
        | some phase =>
            if phase = 0 ∨ Stage.last < phase then .error (.phaseOutOfRange name phase)
            else .ok phase

theorem slicedPhase?_eq (name : String) : slicedPhase? name = some (phaseNumber name) := by
  rw [slicedPhase?]
  cases found : Text.digitsStart? name with
  | none => rw [phaseNumber_of_no_digits (Text.digitsStart?_eq_none_iff.mp found)]
  | some start =>
      have nonempty : Text.trailingDigits name.toList ≠ [] := by
        intro none
        rw [Text.digitsStart?_eq_none_iff.mpr none] at found
        cases found
      have digitsOnly := (Text.digitEnding_trailingDigits name.toList).digitsOnly
      rw [phaseNumber_of_digits rfl nonempty]
      simp only [Text.sliceFrom?_digitsStart found, Option.map_some, String.toList_ofList,
        Text.numberBelow?_of_digits nonempty digitsOnly]
      by_cases tooLarge : 255 < Nat.ofDigitChars 10 (Text.trailingDigits name.toList) 0
      · rw [if_pos tooLarge, if_neg (by omega)]
      · rw [if_neg tooLarge, if_pos (by omega)]
        rfl

/-- The phase number of any name. Its digits are the longest ending of the name that
consists of ASCII digits, where other digits of Unicode do not count, and a slice by
offsets takes exactly these. Their value, whatever its size and however many zeros lead,
is a phase from 1 to 8, out of range up to 255, and no number at all above; without digits
there is none. -/
theorem phaseNumber_trichotomy (name : String) :
    ∃ digits value, (∀ other, Text.DigitEnding name.toList other ↔ other = digits) ∧
      (∀ digit ∈ digits, 48 ≤ digit.toNat ∧ digit.toNat ≤ 57) ∧
      value = Nat.ofDigitChars 10 digits 0 ∧
      (Text.digitsStart? name = none ↔ digits = []) ∧
      (∀ start, Text.digitsStart? name = some start →
        Text.sliceFrom? name start = some (String.ofList digits)) ∧
      slicedPhase? name = some (phaseNumber name) ∧
      (digits ≠ [] → 1 ≤ value → value ≤ 8 → phaseNumber name = .ok value) ∧
      (digits ≠ [] → value = 0 ∨ 9 ≤ value ∧ value ≤ 255 →
        phaseNumber name = .error (.phaseOutOfRange name value)) ∧
      (digits = [] ∨ 255 < value →
        phaseNumber name = .error (.missingPhaseNumber name)) := by
  refine ⟨Text.trailingDigits name.toList, _, fun _ => Text.digitEnding_iff, ?_, rfl,
    Text.digitsStart?_eq_none_iff, fun _ => Text.sliceFrom?_digitsStart, slicedPhase?_eq name,
    ?_, ?_, ?_⟩
  · intro digit member
    have isDigit := (Text.digitEnding_trailingDigits name.toList).digitsOnly digit member
    exact Char.isDigit_iff_toNat.mp isDigit
  · intro nonempty positive small
    rw [phaseNumber_of_digits rfl nonempty, if_neg (by omega), if_neg (by omega)]
  · intro nonempty outside
    rw [phaseNumber_of_digits rfl nonempty, if_neg (by omega), if_pos (by omega)]
  · intro missing
    by_cases empty : Text.trailingDigits name.toList = []
    · exact phaseNumber_of_no_digits empty
    · rw [phaseNumber_of_digits rfl empty, if_pos (missing.resolve_left empty)]

end SignalControl
