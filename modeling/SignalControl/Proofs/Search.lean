import Mathlib.Data.List.DropRight
import Mathlib.Data.List.Infix
import SignalControl.Text.Search

namespace SignalControl.Text

/-! A search finds a text exactly where it occurs, and a text is split at the first
or at the last occurrence of a character. A text that is trimmed at one end loses what
stands there, up to the first character that is to be kept. -/

theorem isSome_isPrefixOf?_iff {opening text : List Char} :
    (opening.isPrefixOf? text).isSome = true ↔ opening <+: text := by
  rw [List.isSome_isPrefixOf?_eq_isPrefixOf, List.isPrefixOf_iff_prefix]

theorem occursIn_iff {needle text : List Char} :
    occursIn needle text = true ↔ needle <:+: text := by
  induction text with
  | nil =>
      rw [occursIn, after?, isSome_isPrefixOf?_iff, List.prefix_nil, List.infix_nil]
  | cons character rest induction =>
      rw [List.infix_cons_iff, ← isSome_isPrefixOf?_iff, ← induction]
      simp only [occursIn, after?]
      split
      next found => simp [found]
      next notHere => simp [notHere]

/-! ## First occurrences -/

structure FirstOccurrence (needle text before after : List Char) : Prop where
  stands : text = before ++ needle ++ after
  first : ∀ left right, text = left ++ needle ++ right → before.length ≤ left.length

section

variable {needle text rest before after : List Char} {character : Char}

theorem FirstOccurrence.of_start (stands : text = needle ++ after) :
    FirstOccurrence needle text [] after where
  stands := stands
  first := fun left _ _ => Nat.zero_le left.length

/-- What is first behind the first character is first, unless the text starts with it. -/
theorem firstOccurrence_cons_iff (notHere : ¬ needle <+: character :: rest) :
    FirstOccurrence needle (character :: rest) before after ↔
      ∃ others, before = character :: others ∧ FirstOccurrence needle rest others after := by
  have later : ∀ left right, character :: rest = left ++ needle ++ right →
      ∃ others, left = character :: others ∧ rest = others ++ needle ++ right := by
    intro left right stands
    cases left with
    | nil => exact absurd ⟨right, stands.symm⟩ notHere
    | cons head others =>
        cases stands
        exact ⟨others, rfl, rfl⟩
  constructor
  · intro found
    rcases later before after found.stands with ⟨others, equal, stands⟩
    subst equal
    refine ⟨others, rfl, stands, ?_⟩
    intro left right standsLeft
    have bound := found.first (character :: left) right (by rw [standsLeft]; rfl)
    exact Nat.le_of_succ_le_succ bound
  · intro ⟨others, equal, found⟩
    subst equal
    refine ⟨by rw [found.stands]; rfl, ?_⟩
    intro left right stands
    rcases later left right stands with ⟨leftOthers, equal, standsLater⟩
    subst equal
    exact Nat.succ_le_succ (found.first leftOthers right standsLater)

theorem after?_eq_some_iff :
    after? needle text = some after ↔
      ∃ before, FirstOccurrence needle text before after := by
  induction text with
  | nil =>
      rw [after?, List.isPrefixOf?_eq_some_iff_append_eq]
      constructor
      · intro equal
        exact ⟨[], .of_start equal.symm⟩
      · intro ⟨before, found⟩
        have stands := List.nil_eq_append_iff.mp found.stands
        rw [(List.append_eq_nil_iff.mp stands.1).2, stands.2]
        rfl
  | cons character rest induction =>
      rw [after?]
      split
      next remainder here =>
        have stands := List.isPrefixOf?_eq_some_iff_append_eq.mp here
        rw [Option.some.injEq]
        constructor
        · intro equal
          subst equal
          exact ⟨[], .of_start stands.symm⟩
        · intro ⟨before, found⟩
          have atStart : before = [] :=
            List.eq_nil_of_length_eq_zero
              (Nat.le_zero.mp (found.first [] remainder stands.symm))
          have sameRest := stands.trans found.stands
          rw [atStart, List.nil_append] at sameRest
          exact List.append_cancel_left sameRest
      next notHere =>
        have notPrefix : ¬ needle <+: character :: rest := by
          rw [← isSome_isPrefixOf?_iff, notHere]
          exact Bool.false_ne_true
        simp only [induction, firstOccurrence_cons_iff notPrefix]
        constructor
        · intro ⟨others, found⟩
          exact ⟨character :: others, others, rfl, found⟩
        · intro ⟨_, others, _, found⟩
          exact ⟨others, found⟩

end

/-! ## Splitting -/

def splitAtLast? (separator : Char) (text : List Char) :
    Option (List Char × List Char) :=
  (splitAtFirst? separator text.reverse).map fun parts =>
    (parts.2.reverse, parts.1.reverse)

section

variable {separator : Char} {text before after : List Char}

theorem splitAtFirst?_eq_some_iff :
    splitAtFirst? separator text = some (before, after) ↔
      text = before ++ separator :: after ∧ separator ∉ before := by
  induction text generalizing before with
  | nil => simp [splitAtFirst?]
  | cons character rest induction =>
      rw [splitAtFirst?]
      split
      next here =>
        subst here
        cases before with
        | nil => simp
        | cons first others =>
            simp only [Option.some.injEq, Prod.mk.injEq, List.cons_append, List.cons.injEq,
              List.mem_cons, not_or]
            constructor
            · rintro ⟨impossible, -⟩
              cases impossible
            · rintro ⟨⟨same, -⟩, different, -⟩
              exact absurd same different
      next different =>
        rw [Option.map_eq_some_iff]
        constructor
        · rintro ⟨⟨others, after⟩, found, equal⟩
          cases equal
          rcases induction.mp found with ⟨rfl, absent⟩
          exact ⟨rfl, List.not_mem_cons_of_ne_of_not_mem (Ne.symm different) absent⟩
        · rintro ⟨equal, absent⟩
          cases before with
          | nil => exact absurd (List.cons.inj equal).1 different
          | cons first others =>
              cases equal
              exact ⟨(others, after),
                induction.mpr ⟨rfl, List.not_mem_of_not_mem_cons absent⟩, rfl⟩

theorem splitAtFirst?_of_mem (member : separator ∈ text) :
    splitAtFirst? separator text =
      some (text.takeWhile (· ≠ separator), (text.dropWhile (· ≠ separator)).tail) := by
  induction text with
  | nil => cases member
  | cons character rest induction =>
      rw [splitAtFirst?]
      split
      next here => simp [here]
      next different =>
        have later : separator ∈ rest :=
          (List.mem_cons.mp member).resolve_left (Ne.symm different)
        simp [induction later, different]

theorem splitAtFirst?_eq_none_iff : splitAtFirst? separator text = none ↔ separator ∉ text := by
  induction text with
  | nil => simp [splitAtFirst?]
  | cons character rest induction =>
      rw [splitAtFirst?]
      split
      next here => simp [here]
      next different =>
        rw [Option.map_eq_none_iff, induction, List.mem_cons, not_or]
        exact (and_iff_right (Ne.symm different)).symm

theorem splitAtLast?_eq_some_iff :
    splitAtLast? separator text = some (before, after) ↔
      text = before ++ separator :: after ∧ separator ∉ after := by
  have reversed : splitAtLast? separator text = some (before, after) ↔
      splitAtFirst? separator text.reverse = some (after.reverse, before.reverse) := by
    rw [splitAtLast?, Option.map_eq_some_iff]
    constructor
    · rintro ⟨⟨late, early⟩, found, equal⟩
      cases equal
      rw [found, List.reverse_reverse, List.reverse_reverse]
    · intro found
      exact ⟨_, found, by rw [List.reverse_reverse, List.reverse_reverse]⟩
  rw [reversed, splitAtFirst?_eq_some_iff, List.mem_reverse, List.reverse_eq_iff]
  simp

end

/-! ## Trimming -/

section

variable {trims : Char → Bool} {text kept : List Char}

theorem dropWhile_eq_iff :
    text.dropWhile trims = kept ↔
      ∃ before, text = before ++ kept ∧
        (∀ character ∈ before, trims character = true) ∧
        ∀ first ∈ kept.head?, trims first = false := by
  constructor
  · intro equal
    subst equal
    refine ⟨text.takeWhile trims, List.takeWhile_append_dropWhile.symm, ?_, ?_⟩
    · intro character member
      exact List.all_eq_true.mp List.all_takeWhile character member
    · intro first isFirst
      have stop := List.head?_dropWhile_not trims text
      rw [Option.mem_def] at isFirst
      rwa [isFirst] at stop
  · intro ⟨before, equal, trimmed, starts⟩
    subst equal
    rw [List.dropWhile_append_of_pos trimmed]
    cases kept with
    | nil => rfl
    | cons first others =>
        rw [List.dropWhile_cons, starts first rfl]
        rfl

theorem rdropWhile_eq_iff :
    text.rdropWhile trims = kept ↔
      ∃ after, text = kept ++ after ∧
        (∀ character ∈ after, trims character = true) ∧
        ∀ last ∈ kept.getLast?, trims last = false := by
  have mirrored : text.rdropWhile trims = kept ↔
      text.reverse.dropWhile trims = kept.reverse := by
    rw [List.rdropWhile, List.reverse_eq_iff]
  rw [mirrored, dropWhile_eq_iff, List.head?_reverse]
  constructor
  · intro ⟨before, equal, trimmed, ends⟩
    refine ⟨before.reverse, ?_, ?_, ends⟩
    · rw [List.reverse_eq_iff, List.reverse_append, List.reverse_reverse] at equal
      exact equal
    · intro character member
      exact trimmed character (List.mem_reverse.mp member)
  · intro ⟨after, equal, trimmed, ends⟩
    refine ⟨after.reverse, ?_, ?_, ends⟩
    · rw [equal, List.reverse_append]
    · intro character member
      exact trimmed character (List.mem_reverse.mp member)

end

end SignalControl.Text
