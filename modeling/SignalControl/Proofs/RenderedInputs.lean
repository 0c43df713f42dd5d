import SignalControl.Proofs.InputsGrammar

namespace SignalControl

/-! Reading a rendered page gives back its rows. A name may hold white space of any kind,
for the columns at both ends of a row keep it away from the trimming. -/

theorem Actuator.Token.text_ne_nil (token : Token) : token.text.toList ≠ [] := by
  rcases token with (_ | _ | _) | (_ | _ | _) <;> decide

theorem Actuator.Token.text_plain (token : Token) :
    ∀ character ∈ token.text.toList,
      character ≠ ';' ∧ character ≠ '\n' ∧ Text.isBlank character = false := by
  have plain : (token.text.toList.all fun character =>
      character != ';' && (character != '\n' && !Text.isBlank character)) = true := by
    rcases token with (_ | _ | _) | (_ | _ | _) <;> decide
  simpa only [List.all_eq_true, Bool.and_eq_true, bne_iff_ne, Bool.not_eq_true']
    using plain

section

variable {relation : α → β → Prop} {nameOf : α → String} {otherName : β → String}
  {items : List α} {others : List β} {name : String} {item : α}

theorem map_name_of_forall₂
    (sameName : ∀ item other, relation item other → otherName other = nameOf item)
    (related : List.Forall₂ relation items others) :
    others.map otherName = items.map nameOf := by
  induction related with
  | nil => rfl
  | cons here _ induction =>
      rw [List.map_cons, List.map_cons, sameName _ _ here, induction]

theorem LastNamed.exists_of_forall₂
    (sameName : ∀ item other, relation item other → otherName other = nameOf item)
    (related : List.Forall₂ relation items others)
    (last : LastNamed nameOf items name item) :
    ∃ other, LastNamed otherName others name other ∧ relation item other := by
  rcases last with ⟨earlier, later, equal, named, absent⟩
  subst equal
  -- The other list is cut where the item stands in the first one.
  have fromItem := List.forall₂_drop_append _ _ _ related.flip
  rcases List.forall₂_cons_right_iff.mp fromItem with
    ⟨other, laterOthers, here, relatedLater, split⟩
  refine ⟨other, ⟨others.take earlier.length, laterOthers, ?_, ?_, ?_⟩, here⟩
  · rw [← split, List.take_append_drop]
  · rw [sameName item other here, named]
  · have laterNames := map_name_of_forall₂ sameName relatedLater.flip
    rw [← List.forall_mem_map (P := fun later => later ≠ name), laterNames]
    exact List.forall_mem_map.mpr absent

end

namespace PlainPage

/-- The row is still one row of six columns when it is rendered, and its columns can be
read. -/
structure Row.Readable (row : Row) : Prop where
  oneLine : '\n' ∉ row.name.toList
  oneColumn : ';' ∉ row.name.toList
  index : row.index.toNat < UInt32.size - 1
  state : row.state = "0" ∨ row.state = "1"
  actuator : ∃ token : Actuator.Token, row.actuator = token.text

structure Row.ReadsAs (row : Row) (record : InputRecord) : Prop where
  index : record.index = row.index
  number : record.number.toNat = row.index.toNat + 1
  name : record.name = row.name
  state : record.state.text = row.state
  stateTime : record.stateTime = "2345563"
  actuator : record.actuator.text = row.actuator

def Row.columns (row : Row) : List (List Char) :=
  [(toString row.index.toNat).toList, (toString (row.index + 1).toNat).toList,
    row.name.toList, row.state.toList, renderedTime.toList, row.actuator.toList]

def Row.line (row : Row) : List Char :=
  [';'].intercalate row.columns

section

variable {row : Row} {rows : List Row} {record : InputRecord}

theorem Row.toList_render (row : Row) : row.render.toList = row.line ++ ['\n'] := by
  rw [Row.render, String.toList_append, String.toList_intercalate]
  rfl

theorem Row.line_ends (row : Row) :
    ∃ middle, row.line =
      (toString row.index.toNat).toList ++ middle ++ row.actuator.toList := by
  refine ⟨';' :: [';'].intercalate [(toString (row.index + 1).toNat).toList,
    row.name.toList, row.state.toList, renderedTime.toList, []], ?_⟩
  simp [Row.line, Row.columns, List.intercalate_cons_cons]

theorem Row.line_ne_nil (row : Row) : row.line ≠ [] := by
  rcases row.line_ends with ⟨middle, equal⟩
  rw [equal, List.append_assoc]
  exact List.append_ne_nil_of_left_ne_nil (Text.toString_ne_nil _) _

/-! ## One row -/

namespace Row.Readable

theorem number (readable : row.Readable) :
    (row.index + 1).toNat = row.index.toNat + 1 := by
  have below := Nat.add_lt_of_lt_sub readable.index
  rw [UInt32.toNat_add]
  exact Nat.mod_eq_of_lt below

theorem exists_record (readable : row.Readable) : ∃ record, row.ReadsAs record := by
  rcases readable.actuator with ⟨token, isToken⟩
  have level : ∃ level : InputState, level.text = row.state := by
    rcases readable.state with idle | active
    · exact ⟨.idle, idle.symm⟩
    · exact ⟨.active, active.symm⟩
  rcases level with ⟨level, isLevel⟩
  exact ⟨{
      index := row.index
      number := row.index + 1
      name := row.name
      state := level
      stateTime := renderedTime
      actuator := token },
    { index := rfl
      number := readable.number
      name := rfl
      state := isLevel
      stateTime := rfl
      actuator := isToken.symm }⟩

theorem columns_plain (readable : row.Readable) :
    ∀ column ∈ row.columns, ';' ∉ column ∧ '\n' ∉ column := by
  have numeral (number : Nat) :
      ';' ∉ (toString number).toList ∧ '\n' ∉ (toString number).toList := by
    constructor
    · intro member
      exact absurd (Text.isDigit_of_mem_toString member) (by decide)
    · intro member
      exact absurd (Text.isDigit_of_mem_toString member) (by decide)
  have state : ';' ∉ row.state.toList ∧ '\n' ∉ row.state.toList := by
    rcases readable.state with idle | active
    · rw [idle]
      decide
    · rw [active]
      decide
  have actuator : ';' ∉ row.actuator.toList ∧ '\n' ∉ row.actuator.toList := by
    rcases readable.actuator with ⟨token, isToken⟩
    rw [isToken]
    exact ⟨fun member => (token.text_plain _ member).1 rfl,
      fun member => (token.text_plain _ member).2.1 rfl⟩
  simp only [Row.columns, List.forall_mem_cons]
  exact ⟨numeral _, numeral _, ⟨readable.oneColumn, readable.oneLine⟩, state, by decide,
    actuator, by simp⟩

theorem cut (readable : row.Readable) : Text.Cut ';' row.line row.columns where
  nonempty := List.cons_ne_nil _ _
  joined := rfl
  free := fun column member => (readable.columns_plain column member).1

theorem not_mem_line (readable : row.Readable) : '\n' ∉ row.line :=
  readable.cut.not_mem (by decide)
    fun column member => (readable.columns_plain column member).2

/-- A rendered row starts with a digit and ends with its actuator, so there is nothing to
trim. -/
theorem trimmed (readable : row.Readable) : Text.Trimmed row.line row.line := by
  rcases readable.actuator with ⟨token, isToken⟩
  rcases row.line_ends with ⟨middle, equal⟩
  rw [isToken] at equal
  refine ⟨⟨[], [], by simp, by simp, by simp⟩, ?_, ?_⟩
  · intro first isFirst
    rw [equal, List.append_assoc, List.head?_append_of_ne_nil _ (Text.toString_ne_nil _)]
      at isFirst
    exact Text.isBlank_of_isDigit
      (Text.isDigit_of_mem_toString (List.mem_of_head? isFirst))
  · intro last isLast
    rw [equal, List.getLast?_append_of_ne_nil _ token.text_ne_nil] at isLast
    exact (token.text_plain last (List.mem_of_getLast? isLast)).2.2

theorem shows (readable : row.Readable) (readsAs : row.ReadsAs record) :
    Shows row.line record := by
  have cut := readable.cut
  have number : record.number = row.index + 1 := by
    rw [← UInt32.toNat_inj, readsAs.number, readable.number]
  refine ⟨_, _, ?_, Text.isNumeral_toString _, Text.isNumeral_toString _⟩
  rw [readsAs.index, number, readsAs.name, readsAs.state, readsAs.stateTime,
    readsAs.actuator]
  exact cut

end Row.Readable

/-! ## All rows -/

theorem rows_renderInputs (readable : ∀ row ∈ rows, row.Readable) :
    Text.rows (renderInputs rows).toList = rows.map Row.line := by
  induction rows with
  | nil => rfl
  | cons row rest induction =>
      rcases List.forall_mem_cons.mp readable with ⟨here, later⟩
      have rendered : (renderInputs (row :: rest)).toList =
          row.line ++ '\n' :: (renderInputs rest).toList := by
        rw [renderInputs, List.map_cons, String.join_cons, String.toList_append,
          Row.toList_render, List.append_assoc]
        rfl
      rw [rendered, Text.rows_append,
        Text.rows_of_trimmed here.not_mem_line here.trimmed row.line_ne_nil,
        induction later]
      rfl

theorem exists_records (readable : ∀ row ∈ rows, row.Readable) :
    ∃ records, List.Forall₂ Row.ReadsAs rows records ∧
      List.Forall₂ Shows (rows.map Row.line) records := by
  have each : ∀ row ∈ rows, ∃ record, row.Readable ∧ row.ReadsAs record := by
    intro row member
    rcases (readable row member).exists_record with ⟨record, readsAs⟩
    exact ⟨record, readable row member, readsAs⟩
  rcases exists_forall₂_iff.mpr each with ⟨records, related⟩
  refine ⟨records, related.imp fun row record facts => facts.2, ?_⟩
  rw [List.forall₂_map_left_iff]
  exact related.imp fun row record facts => facts.1.shows facts.2

end

/-- A page with rows is read as the last row of each name and nothing else, and a page
without rows is refused. -/
theorem parseInputs_renderInputs (rows : List Row)
    (readable : ∀ row ∈ rows, row.Readable) :
    (rows ≠ [] → ∃ inputs,
      parseInputs (renderInputs rows) = .ok (.inputs inputs) ∧
      (∀ name row, LastNamed Row.name rows name row →
        ∃ record, inputs.get? name = some record ∧ row.ReadsAs record) ∧
      ∀ name, (∀ row ∈ rows, row.name ≠ name) → inputs.get? name = none) ∧
    (rows = [] → parseInputs (renderInputs rows) =
      .error { page := "inputs page", reason := "no inputs" }) := by
  constructor
  · intro nonempty
    rcases exists_records readable with ⟨records, readAs, shown⟩
    rw [← rows_renderInputs readable] at shown
    have someRow : Text.rows (renderInputs rows).toList ≠ [] := by
      rw [rows_renderInputs readable]
      exact mt List.map_eq_nil_iff.mp nonempty
    have sameName (row : Row) (record : InputRecord) (readsAs : row.ReadsAs record) :
        record.name = row.name := readsAs.name
    let inputs : Inputs := NameTable.ofList (records.map fun record => (record.name, record))
    have found (name : String) (record : InputRecord) :
        inputs.get? name = some record ↔
          LastNamed InputRecord.name records name record :=
      get?_ofList_eq_some_iff_lastNamed
    refine ⟨inputs, parseInputs_eq_ok_iff.mpr
      ⟨someRow, records, inputs, shown, rfl, found⟩, ?_, ?_⟩
    · intro name row last
      rcases last.exists_of_forall₂ sameName readAs with ⟨record, lastRecord, readsAs⟩
      exact ⟨record, (found name record).mpr lastRecord, readsAs⟩
    · intro name absent
      apply Option.eq_none_iff_forall_ne_some.mpr
      intro record isFound
      have listed : name ∈ rows.map Row.name := by
        rw [← map_name_of_forall₂ sameName readAs]
        exact ((found name record).mp isFound).mem_names
      rcases List.mem_map.mp listed with ⟨row, member, sameRow⟩
      exact absent row member sameRow
  · intro noRows
    rw [parseInputs_eq_error_iff, rows_renderInputs readable, noRows]
    exact ⟨rfl, .inl ⟨rfl, rfl⟩⟩

def blankNamedRows : List Row :=
  [{ name := "", index := 0, state := "1", actuator := "-" },
    { name := " \r\u2028", index := 4294967294, state := "0", actuator := "2" },
    { name := "", index := 7, state := "0", actuator := "ВЫКЛ" }]

theorem blankNamedRows_readable : ∀ row ∈ blankNamedRows, row.Readable := by
  simp only [blankNamedRows, List.forall_mem_cons]
  refine ⟨?_, ?_, ?_, by simp⟩
  · exact ⟨by decide, by decide, by decide, .inr rfl, .label .flashing, rfl⟩
  · exact ⟨by decide, by decide, by decide, .inl rfl, .value .on, rfl⟩
  · exact ⟨by decide, by decide, by decide, .inl rfl, .label .off, rfl⟩

theorem blankNamedRows_parsed :
    (∀ row ∈ blankNamedRows, row.Readable) ∧ ∃ inputs,
      parseInputs (renderInputs blankNamedRows) = .ok (.inputs inputs) ∧
      (∃ record, inputs.get? "" = some record ∧ record.index = 7) ∧
      (∃ record, inputs.get? " \r\u2028" = some record ∧
        record.number.toNat = 4294967295) ∧
      inputs.get? " " = none := by
  rcases (parseInputs_renderInputs blankNamedRows blankNamedRows_readable).1
    (List.cons_ne_nil _ _) with ⟨inputs, parsed, last, absent⟩
  refine ⟨blankNamedRows_readable, inputs, parsed, ?_, ?_, absent " " (by decide)⟩
  · rcases last "" _ ⟨blankNamedRows.take 2, [], rfl, rfl, by simp⟩ with
      ⟨record, found, readsAs⟩
    exact ⟨record, found, readsAs.index⟩
  · rcases last " \r\u2028" _ ⟨blankNamedRows.take 1, _, rfl, rfl, by decide⟩ with
      ⟨record, found, readsAs⟩
    exact ⟨record, found, readsAs.number⟩

end PlainPage

end SignalControl
