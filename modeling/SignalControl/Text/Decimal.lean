namespace SignalControl.Text

/-! Unsigned decimal numerals: ASCII digits, any number of leading zeros, and
one optional plus sign where a whole column is a number. -/

def digitValue (character : Char) : Nat :=
  character.toNat - '0'.toNat

def digitsValue (digits : List Char) : Nat :=
  digits.foldl (fun value digit => 10 * value + digitValue digit) 0

theorem digitsValue_eq_ofDigitChars (digits : List Char) :
    digitsValue digits = Nat.ofDigitChars 10 digits 0 := by
  rw [Nat.ofDigitChars_eq_foldl]
  rfl

theorem digitsValue_concat (digits : List Char) (digit : Char) :
    digitsValue (digits ++ [digit]) = 10 * digitsValue digits + digitValue digit := by
  simp [digitsValue]

def numeral? (text : List Char) : Option Nat :=
  if !text.isEmpty && text.all Char.isDigit then some (digitsValue text) else none

theorem numeral?_eq_some_iff {text : List Char} {value : Nat} :
    numeral? text = some value ↔
      text ≠ [] ∧ (∀ digit ∈ text, digit.isDigit = true) ∧ digitsValue text = value := by
  rw [numeral?, Option.ite_none_right_eq_some, Option.some.injEq, Bool.and_eq_true,
    Bool.not_eq_true', List.isEmpty_eq_false_iff, List.all_eq_true, and_assoc]

def signedNumeral? : List Char → Option Nat
  | '+' :: digits => numeral? digits
  | text => numeral? text

def numberBelow? (limit : Nat) (text : List Char) : Option Nat :=
  (signedNumeral? text).filter fun value => value < limit

def readUInt32? (text : List Char) : Option UInt32 :=
  (numberBelow? UInt32.size text).map UInt32.ofNat

theorem numeral?_toDigits (number : Nat) :
    numeral? (Nat.toDigits 10 number) = some number := by
  have digits : ∀ character ∈ Nat.toDigits 10 number, character.isDigit := by
    intro character member
    exact Nat.isDigit_of_mem_toDigits (by decide) (by decide) member
  refine numeral?_eq_some_iff.mpr ⟨Nat.toDigits_ne_nil, digits, ?_⟩
  rw [digitsValue_eq_ofDigitChars, Nat.ofDigitChars_ten_toDigits]

theorem toString_ne_nil (number : Nat) : (toString number).toList ≠ [] := by
  rw [Nat.toString_eq_repr, Nat.toList_repr]
  exact Nat.toDigits_ne_nil

theorem isDigit_of_mem_toString {number : Nat} {character : Char}
    (member : character ∈ (toString number).toList) : character.isDigit = true := by
  rw [Nat.toString_eq_repr, Nat.toList_repr] at member
  exact Nat.isDigit_of_mem_toDigits (by decide) (by decide) member

theorem signedNumeral?_of_digits {digits : List Char} (nonempty : digits ≠ [])
    (digitsOnly : ∀ digit ∈ digits, digit.isDigit = true) :
    signedNumeral? digits = some (digitsValue digits) := by
  unfold signedNumeral?
  split
  next => exact absurd (digitsOnly '+' List.mem_cons_self) (by decide)
  next => exact numeral?_eq_some_iff.mpr ⟨nonempty, digitsOnly, rfl⟩

theorem signedNumeral?_toDigits (number : Nat) :
    signedNumeral? (Nat.toDigits 10 number) = some number := by
  rcases numeral?_eq_some_iff.mp (numeral?_toDigits number) with ⟨nonempty, digitsOnly, value⟩
  rw [signedNumeral?_of_digits nonempty digitsOnly, value]

theorem readUInt32?_toString (number : UInt32) :
    readUInt32? (toString number.toNat).toList = some number := by
  have bound : number.toNat < UInt32.size := number.toNat_lt
  rw [Nat.toString_eq_repr, Nat.toList_repr, readUInt32?, numberBelow?,
    signedNumeral?_toDigits, Option.filter_some, if_pos (decide_eq_true bound),
    Option.map_some, UInt32.ofNat_toNat]

def trailingDigits (text : List Char) : List Char :=
  (text.reverse.takeWhile Char.isDigit).reverse

theorem trailingDigits_append {digits : List Char}
    (digitsOnly : ∀ digit ∈ digits, digit.isDigit = true) (text : List Char) :
    trailingDigits (text ++ digits) = trailingDigits text ++ digits := by
  have reversed : ∀ digit ∈ digits.reverse, digit.isDigit = true := by
    intro digit member
    exact digitsOnly digit (List.mem_reverse.mp member)
  rw [trailingDigits, List.reverse_append, List.takeWhile_append_of_pos reversed,
    List.reverse_append, List.reverse_reverse, trailingDigits]

theorem trailingDigits_concat {digit : Char} (isDigit : digit.isDigit = true)
    (text : List Char) :
    trailingDigits (text ++ [digit]) = trailingDigits text ++ [digit] := by
  apply trailingDigits_append
  intro other member
  rw [List.mem_singleton.mp member, isDigit]

theorem trailingDigits_eq_iff {text digits : List Char} :
    trailingDigits text = digits ↔
      ∃ opening, text = opening ++ digits ∧
        (∀ digit ∈ digits, digit.isDigit = true) ∧
        ∀ last ∈ opening.getLast?, last.isDigit = false := by
  constructor
  · rintro rfl
    refine ⟨(text.reverse.dropWhile Char.isDigit).reverse, ?_, ?_, ?_⟩
    · rw [trailingDigits, ← List.reverse_append, List.takeWhile_append_dropWhile,
        List.reverse_reverse]
    · intro digit member
      exact List.all_eq_true.mp List.all_takeWhile digit (List.mem_reverse.mp member)
    · intro last isLast
      have stop := List.head?_dropWhile_not Char.isDigit text.reverse
      rw [List.getLast?_reverse, Option.mem_def] at isLast
      rwa [isLast] at stop
  · rintro ⟨opening, rfl, digitsOnly, stop⟩
    have noMore : trailingDigits opening = [] := by
      rw [← List.head?_reverse] at stop
      rw [trailingDigits]
      cases reversed : opening.reverse with
      | nil => rfl
      | cons last others =>
          rw [reversed] at stop
          rw [List.takeWhile_cons, stop last rfl]
          rfl
    rw [trailingDigits_append digitsOnly, noMore, List.nil_append]

example : readUInt32? "+007".toList = some 7 := by decide
example : readUInt32? "4294967296".toList = none := by decide
example : trailingDigits "A1B23".toList = ['2', '3'] := by decide

end SignalControl.Text
