import Mathlib.Data.List.Forall2
import SignalControl.Proofs.Search
import SignalControl.Text.Blank

namespace SignalControl.Text

/-! How a page falls into rows. A separator cuts a text into parts, and the rows are the
parts between line feeds, without the white space around them and short of the blank
ones. -/

variable {separator : Char} {text line row before after : List Char}
  {parts found : List (List Char)}

/-! ## Parts between separators -/

/-- The text is the parts with one separator between each two of them. -/
structure Cut (separator : Char) (text : List Char)
    (parts : List (List Char)) : Prop where
  nonempty : parts ≠ []
  joined : [separator].intercalate parts = text
  free : ∀ part ∈ parts, separator ∉ part

theorem not_mem_of_mem_splitOn {part : List Char}
    (member : part ∈ text.splitOn separator) : separator ∉ part := by
  induction text generalizing part with
  | nil =>
      rw [List.splitOn_nil, List.mem_singleton] at member
      rw [member]
      exact List.not_mem_nil
  | cons character rest induction =>
      rw [List.splitOn_cons_eq_if_modifyHead] at member
      split at member
      next =>
        rcases List.mem_cons.mp member with first | later
        · rw [first]
          exact List.not_mem_nil
        · exact induction later
      next different =>
        cases others : rest.splitOn separator with
        | nil => exact absurd others (List.splitOn_ne_nil separator rest)
        | cons head tail =>
            rw [others, List.modifyHead_cons] at member
            rw [others] at induction
            rcases List.mem_cons.mp member with first | later
            · rw [first, List.mem_cons, not_or]
              exact ⟨fun same => different (beq_iff_eq.mpr same.symm),
                induction List.mem_cons_self⟩
            · exact induction (List.mem_cons_of_mem _ later)

theorem cut_iff : Cut separator text parts ↔ text.splitOn separator = parts := by
  constructor
  · intro cut
    rw [← cut.joined]
    exact List.splitOn_intercalate separator cut.free cut.nonempty
  · intro equal
    subst equal
    exact {
      nonempty := List.splitOn_ne_nil separator text
      joined := List.intercalate_splitOn separator
      free := fun part member => not_mem_of_mem_splitOn member }

theorem Cut.forall_mem_iff {property : Char → Prop} (cut : Cut separator text parts)
    (ofSeparator : property separator) :
    (∀ character ∈ text, property character) ↔
      ∀ part ∈ parts, ∀ character ∈ part, property character := by
  rw [← cut.joined]
  clear cut
  induction parts with
  | nil => simp
  | cons part others induction =>
      cases others with
      | nil => simp
      | cons next later =>
          rw [List.intercalate_cons_cons, List.forall_mem_append, List.forall_mem_append,
            List.forall_mem_singleton, List.forall_mem_cons, ← induction]
          simp only [ofSeparator, and_true]

theorem Cut.not_mem {character : Char} (cut : Cut separator text parts)
    (different : character ≠ separator) (absent : ∀ part ∈ parts, character ∉ part) :
    character ∉ text := by
  have others : ∀ other ∈ text, other ≠ character := by
    refine (cut.forall_mem_iff ?_).mpr ?_
    · exact Ne.symm different
    · intro part isPart other inPart equal
      exact absent part isPart (equal ▸ inPart)
  exact fun member => others character member rfl

/-! ## White space around a line -/

/-- The row is what stands between the white space at both ends of the line. -/
structure Trimmed (line row : List Char) : Prop where
  around : ∃ before after, line = before ++ row ++ after ∧
    (∀ character ∈ before, isBlank character = true) ∧
    ∀ character ∈ after, isBlank character = true
  starts : ∀ first ∈ row.head?, isBlank first = false
  ends : ∀ last ∈ row.getLast?, isBlank last = false

theorem trimStart_eq_iff :
    trimStart text = row ↔
      ∃ before, text = before ++ row ∧
        (∀ character ∈ before, isBlank character = true) ∧
        ∀ first ∈ row.head?, isBlank first = false :=
  dropWhile_eq_iff

theorem trimEnd_eq_iff :
    trimEnd text = row ↔
      ∃ after, text = row ++ after ∧
        (∀ character ∈ after, isBlank character = true) ∧
        ∀ last ∈ row.getLast?, isBlank last = false :=
  rdropWhile_eq_iff

theorem trimmed_iff : Trimmed line row ↔ trim line = row := by
  rw [trim, trimEnd_eq_iff]
  constructor
  · intro trimmed
    rcases trimmed.around with ⟨before, after, equal, blankBefore, blankAfter⟩
    cases row with
    | nil =>
        -- The line is blank, so the first trimming leaves nothing.
        have nothing : trimStart line = [] := by
          refine trimStart_eq_iff.mpr ⟨line, (List.append_nil line).symm, ?_, by simp⟩
          intro character member
          rw [equal, List.append_nil] at member
          rcases List.mem_append.mp member with first | last
          · exact blankBefore character first
          · exact blankAfter character last
        exact ⟨[], by rw [nothing]; rfl, by simp, trimmed.ends⟩
    | cons first others =>
        refine ⟨after, ?_, blankAfter, trimmed.ends⟩
        refine trimStart_eq_iff.mpr ⟨before, ?_, blankBefore, trimmed.starts⟩
        rw [equal, List.append_assoc]
  · intro ⟨after, equal, blankAfter, ends⟩
    rcases trimStart_eq_iff.mp equal with ⟨before, whole, blankBefore, starts⟩
    refine ⟨⟨before, after, ?_, blankBefore, blankAfter⟩, ?_, ends⟩
    · rw [whole, List.append_assoc]
    · cases row with
      | nil => simp
      | cons first others => exact starts

theorem trim_eq_nil_iff :
    trim line = [] ↔ ∀ character ∈ line, isBlank character = true := by
  rw [← trimmed_iff]
  constructor
  · intro trimmed character member
    rcases trimmed.around with ⟨before, after, equal, blankBefore, blankAfter⟩
    rw [equal, List.append_nil] at member
    rcases List.mem_append.mp member with first | last
    · exact blankBefore character first
    · exact blankAfter character last
  · intro blank
    exact {
      around := ⟨line, [], by simp, blank, by simp⟩
      starts := by simp
      ends := by simp }

/-! ## Rows -/

def RowsOf (text : List Char) (found : List (List Char)) : Prop :=
  ∃ lines trimmed, Cut '\n' text lines ∧ List.Forall₂ Trimmed lines trimmed ∧
    found = trimmed.filter fun row => row ≠ []

theorem forall₂_trimmed_iff {lines trimmed : List (List Char)} :
    List.Forall₂ Trimmed lines trimmed ↔ lines.map trim = trimmed := by
  have byTrim : Trimmed = fun line row => trim line = row := by
    funext line row
    exact propext trimmed_iff
  rw [byTrim, ← List.forall₂_map_left_iff (R := fun left right => left = right),
    List.forall₂_eq_eq_eq]

theorem rowsOf_iff : RowsOf text found ↔ rows text = found := by
  have kept : ∀ trimmed : List (List Char),
      (trimmed.filter fun row => row ≠ []) = trimmed.filter fun row => !row.isEmpty := by
    intro trimmed
    apply List.filter_congr
    intro row _
    cases row with
    | nil => rfl
    | cons first others => rfl
  simp only [RowsOf, cut_iff, forall₂_trimmed_iff, kept]
  constructor
  · intro ⟨lines, trimmed, isLines, isTrimmed, equal⟩
    rw [rows, isLines, isTrimmed, equal]
  · intro equal
    exact ⟨_, _, rfl, rfl, equal.symm⟩

theorem rows_eq_nil_iff :
    rows text = [] ↔ ∀ character ∈ text, isBlank character = true := by
  have cut : Cut '\n' text (text.splitOn '\n') := cut_iff.mpr rfl
  rw [cut.forall_mem_iff (by decide), rows, List.filter_eq_nil_iff, List.forall_mem_map]
  apply forall₂_congr
  intro line _
  rw [← trim_eq_nil_iff, Bool.not_eq_true, Bool.not_eq_false', List.isEmpty_iff]

theorem rows_of_trimmed (oneLine : '\n' ∉ row) (trimmed : Trimmed row row)
    (nonempty : row ≠ []) : rows row = [row] := by
  rw [rows, List.splitOn_eq_singleton oneLine, List.map_singleton, trimmed_iff.mp trimmed,
    List.filter_singleton, List.isEmpty_eq_false_iff.mpr nonempty]
  rfl

theorem rows_append (left right : List Char) :
    rows (left ++ '\n' :: right) = rows left ++ rows right := by
  rw [rows, List.splitOn_append_cons_self, List.map_append, List.filter_append]
  rfl

end SignalControl.Text
