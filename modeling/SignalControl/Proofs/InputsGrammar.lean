import SignalControl.Page.Plain
import SignalControl.Proofs.Fallible
import SignalControl.Proofs.Lines

namespace SignalControl

/-! The grammar of an inputs page. Every row has the six columns of a record, and the page
keeps the last record of each name. If the page is refused, then for the first row that
is not of this form, and for the first column in it that cannot be read. -/

namespace Text

/-- The text stands for the number: ASCII digits, and at most one plus sign in front. -/
def IsNumeral (text : List Char) (number : Nat) : Prop :=
  ∃ digits, (text = digits ∨ text = '+' :: digits) ∧ digits ≠ [] ∧
    (∀ digit ∈ digits, digit.isDigit = true) ∧ Nat.ofDigitChars 10 digits 0 = number

theorem signedNumeral?_eq_some_iff {text : List Char} {number : Nat} :
    signedNumeral? text = some number ↔ IsNumeral text number := by
  unfold signedNumeral?
  split
  next digits =>
    rw [numeral?_eq_some_iff, digitsValue_eq_ofDigitChars]
    constructor
    · intro facts
      exact ⟨digits, .inr rfl, facts⟩
    · intro ⟨others, writing, facts⟩
      rcases writing with unsigned | signed
      · -- A plus sign is no digit.
        rw [← unsigned] at facts
        exact absurd (facts.2.1 '+' List.mem_cons_self) (by decide)
      · cases signed
        exact facts
  next noSign =>
    rw [numeral?_eq_some_iff, digitsValue_eq_ofDigitChars]
    constructor
    · intro facts
      exact ⟨text, .inl rfl, facts⟩
    · intro ⟨digits, writing, facts⟩
      rcases writing with unsigned | signed
      · rw [unsigned]
        exact facts
      · exact absurd signed (noSign digits)

theorem readUInt32?_eq_some_iff {text : List Char} {number : UInt32} :
    readUInt32? text = some number ↔ IsNumeral text number.toNat := by
  simp only [readUInt32?, numberBelow?, Option.map_eq_some_iff, Option.filter_eq_some_iff,
    decide_eq_true_eq, signedNumeral?_eq_some_iff]
  constructor
  · intro read
    rcases read with ⟨value, ⟨numeral, below⟩, equal⟩
    rw [← equal, UInt32.toNat_ofNat_of_lt' below]
    exact numeral
  · intro numeral
    exact ⟨number.toNat, ⟨numeral, number.toNat_lt⟩, UInt32.ofNat_toNat⟩

theorem isNumeral_toString (number : UInt32) :
    IsNumeral (toString number.toNat).toList number.toNat :=
  readUInt32?_eq_some_iff.mp (readUInt32?_toString number)

end Text

/-! ## The last of a name -/

def LastNamed (nameOf : α → String) (items : List α) (name : String) (item : α) : Prop :=
  ∃ earlier later, items = earlier ++ item :: later ∧ nameOf item = name ∧
    ∀ other ∈ later, nameOf other ≠ name

theorem LastNamed.mem_names {nameOf : α → String} {items : List α} {name : String} {item : α}
    (last : LastNamed nameOf items name item) : name ∈ items.map nameOf := by
  rcases last with ⟨earlier, later, equal, named, _⟩
  rw [equal, ← named]
  simp

theorem get?_ofList_map_eq_some_iff {nameOf : α → String} {valueOf : α → β}
    {items : List α} {name : String} {value : β} :
    (NameTable.ofList (items.map fun item => (nameOf item, valueOf item))).get? name =
        some value ↔
      ∃ item, LastNamed nameOf items name item ∧ valueOf item = value := by
  rw [NameTable.get?_ofList_eq_some_iff]
  constructor
  · intro ⟨earlier, later, equal, absent⟩
    rcases List.map_eq_append_iff.mp equal with ⟨before, rest, split, -, isRest⟩
    rcases List.map_eq_cons_iff.mp isRest with ⟨kept, after, splitRest, isKept, isLater⟩
    cases isKept
    refine ⟨kept, ⟨before, after, by rw [split, splitRest], rfl, ?_⟩, rfl⟩
    intro other member
    exact absent (nameOf other, valueOf other) (isLater ▸ List.mem_map_of_mem member)
  · intro ⟨item, ⟨earlier, later, equal, named, absent⟩, isValue⟩
    refine ⟨earlier.map fun item => (nameOf item, valueOf item),
      later.map fun item => (nameOf item, valueOf item), by simp [equal, named, isValue], ?_⟩
    intro entry member
    rcases List.mem_map.mp member with ⟨other, isLater, isEntry⟩
    rw [← isEntry]
    exact absent other isLater

theorem get?_ofList_eq_some_iff_lastNamed {nameOf : α → String} {items : List α}
    {name : String} {item : α} :
    (NameTable.ofList (items.map fun item => (nameOf item, item))).get? name = some item ↔
      LastNamed nameOf items name item := by
  rw [get?_ofList_map_eq_some_iff]
  simp only [exists_eq_right]

namespace PlainPage

/-! ## Rows of the grammar -/

def Shows (row : List Char) (record : InputRecord) : Prop :=
  ∃ index number,
    Text.Cut ';' row [index, number, record.name.toList, record.state.text.toList,
      record.stateTime.toList, record.actuator.text.toList] ∧
    Text.IsNumeral index record.index.toNat ∧ Text.IsNumeral number record.number.toNat

inductive FirstBad (index number state actuator : List Char) : String → Prop
  | index (bad : ∀ value : UInt32, ¬ Text.IsNumeral index value.toNat) :
      FirstBad index number state actuator "index"
  | number {first : UInt32} (indexed : Text.IsNumeral index first.toNat)
      (bad : ∀ value : UInt32, ¬ Text.IsNumeral number value.toNat) :
      FirstBad index number state actuator "number"
  | state {first second : UInt32} (indexed : Text.IsNumeral index first.toNat)
      (numbered : Text.IsNumeral number second.toNat)
      (bad : ∀ level : InputState, state ≠ level.text.toList) :
      FirstBad index number state actuator "state"
  | actuator {first second : UInt32} {level : InputState}
      (indexed : Text.IsNumeral index first.toNat)
      (numbered : Text.IsNumeral number second.toNat) (levelled : state = level.text.toList)
      (bad : ∀ token : Actuator.Token, actuator ≠ token.text.toList) :
      FirstBad index number state actuator "actuator"

/-- Why a row is refused. It does not have six columns, or one of them cannot be read. -/
inductive Offends (row : List Char) : String → Prop
  | columns (cut : Text.Cut ';' row columns) (count : columns.length ≠ 6) :
      Offends row ("bad row " ++ Text.quoted (String.ofList row))
  | column (cut : Text.Cut ';' row [index, number, name, state, time, actuator])
      (bad : FirstBad index number state actuator column) :
      Offends row ("bad " ++ column ++ " in " ++ Text.quoted (String.ofList row))

def FirstOffence (rows : List (List Char)) (reason : String) : Prop :=
  ∃ before row after, rows = before ++ row :: after ∧
    (∀ earlier ∈ before, ∃ record, Shows earlier record) ∧ Offends row reason

section

variable {row : List Char} {rows : List (List Char)} {record : InputRecord}
  {inputs table : Inputs} {reason : String} {value : Option α} {result : α}
  {error other : InputsError}

theorem required_eq_ok_iff : required value error = .ok result ↔ value = some result := by
  cases value with
  | none => simp [required]
  | some value => simp [required]

theorem required_eq_error_iff :
    required value error = .error other ↔ value = none ∧ error = other := by
  cases value with
  | none => simp [required]
  | some value => simp [required]

theorem readState_iff {column : List Char} {level : InputState} :
    InputState.ofText? (String.ofList column) = some level ↔
      column = level.text.toList := by
  rw [InputState.ofText?_eq_some_iff, ← String.toList_inj, String.toList_ofList]

theorem readActuator_iff {column : List Char} {token : Actuator.Token} :
    Actuator.Token.ofText? (String.ofList column) = some token ↔
      column = token.text.toList := by
  rw [Actuator.Token.ofText?_eq_some_iff, ← String.toList_inj, String.toList_ofList]

theorem readRow_eq_ok_iff : readRow row = .ok record ↔ Shows row record := by
  constructor
  · intro read
    rw [readRow] at read
    split at read
    next index number name state time actuator columns =>
      simp only [bind_eq_ok_iff, required_eq_ok_iff, Text.readUInt32?_eq_some_iff,
        readState_iff, readActuator_iff] at read
      rcases read with ⟨first, indexed, second, numbered, level, levelled, token, tokened,
        result⟩
      cases result
      refine ⟨index, number, Text.cut_iff.mpr ?_, indexed, numbered⟩
      rw [columns, levelled, tokened, String.toList_ofList, String.toList_ofList]
    next => cases read
  · intro ⟨index, number, cut, indexed, numbered⟩
    rw [readRow, Text.cut_iff.mp cut]
    simp only [bind_eq_ok_iff, required_eq_ok_iff, Text.readUInt32?_eq_some_iff,
      readState_iff, readActuator_iff]
    refine ⟨record.index, indexed, record.number, numbered, record.state, rfl,
      record.actuator, rfl, ?_⟩
    rw [String.ofList_toList, String.ofList_toList]
    rfl

theorem exists_six_of_length {columns : List α} (six : columns.length = 6) :
    ∃ first second third fourth fifth sixth,
      columns = [first, second, third, fourth, fifth, sixth] := by
  match columns, six with
  | [first, second, third, fourth, fifth, sixth], _ =>
      exact ⟨first, second, third, fourth, fifth, sixth, rfl⟩

theorem readRow_of_count (count : (row.splitOn ';').length ≠ 6) :
    readRow row = .error (.badRow row) := by
  rw [readRow]
  split
  next columns =>
    rw [columns] at count
    exact absurd rfl count
  next => rfl

theorem readRow_fails_iff_of_columns {index number name state time actuator : List Char}
    (columns : row.splitOn ';' = [index, number, name, state, time, actuator]) :
    (∃ error, readRow row = .error error ∧ error.reason = reason) ↔
      ∃ column, FirstBad index number state actuator column ∧
        "bad " ++ column ++ " in " ++ Text.quoted (String.ofList row) = reason := by
  rw [readRow, columns]
  simp only [bind_eq_error_iff, required_eq_ok_iff, required_eq_error_iff,
    pure_eq_error_iff, Option.eq_none_iff_forall_ne_some, Ne, Text.readUInt32?_eq_some_iff,
    readState_iff, readActuator_iff]
  constructor
  · intro ⟨error, failed, sameReason⟩
    rcases failed with ⟨bad, equal⟩ | ⟨first, indexed, failed⟩
    · subst equal
      exact ⟨_, .index bad, sameReason⟩
    rcases failed with ⟨bad, equal⟩ | ⟨second, numbered, failed⟩
    · subst equal
      exact ⟨_, .number indexed bad, sameReason⟩
    rcases failed with ⟨bad, equal⟩ | ⟨level, levelled, failed⟩
    · subst equal
      exact ⟨_, .state indexed numbered bad, sameReason⟩
    rcases failed with ⟨bad, equal⟩ | ⟨token, tokened, impossible⟩
    · subst equal
      exact ⟨_, .actuator indexed numbered levelled bad, sameReason⟩
    exact impossible.elim
  · intro ⟨column, firstBad, sameReason⟩
    subst sameReason
    cases firstBad with
    | index bad => exact ⟨_, .inl ⟨bad, rfl⟩, rfl⟩
    | number indexed bad => exact ⟨_, .inr ⟨_, indexed, .inl ⟨bad, rfl⟩⟩, rfl⟩
    | state indexed numbered bad =>
        exact ⟨_, .inr ⟨_, indexed, .inr ⟨_, numbered, .inl ⟨bad, rfl⟩⟩⟩, rfl⟩
    | actuator indexed numbered levelled bad =>
        exact ⟨_, .inr ⟨_, indexed, .inr ⟨_, numbered, .inr ⟨_, levelled,
          .inl ⟨bad, rfl⟩⟩⟩⟩, rfl⟩

theorem readRow_fails_iff :
    (∃ error, readRow row = .error error ∧ error.reason = reason) ↔ Offends row reason := by
  constructor
  · intro fails
    by_cases six : (row.splitOn ';').length = 6
    · rcases exists_six_of_length six with
        ⟨index, number, name, state, time, actuator, columns⟩
      rcases (readRow_fails_iff_of_columns columns).mp fails with
        ⟨column, firstBad, sameReason⟩
      rw [← sameReason]
      exact .column (Text.cut_iff.mpr columns) firstBad
    · rcases fails with ⟨error, failed, sameReason⟩
      rw [readRow_of_count six] at failed
      cases failed
      rw [← sameReason]
      exact .columns (Text.cut_iff.mpr rfl) six
  · intro offends
    cases offends with
    | columns cut count =>
        rw [← Text.cut_iff.mp cut] at count
        exact ⟨_, readRow_of_count count, rfl⟩
    | column cut firstBad =>
        exact (readRow_fails_iff_of_columns (Text.cut_iff.mp cut)).mpr
          ⟨_, firstBad, rfl⟩

/-! ## All rows of a page -/

theorem readRows_eq_mapM :
    readRows inputs rows =
      (fun records => records.foldl (fun map record => map.insert record.name record) inputs)
        <$> rows.mapM readRow :=
  reader_eq_mapM (fun _ => rfl) (fun _ _ _ => rfl) inputs rows

theorem readRows_eq_ok_iff :
    readRows inputs rows = .ok table ↔
      ∃ records, List.Forall₂ Shows rows records ∧
        table = records.foldl (fun map record => map.insert record.name record) inputs := by
  simp only [readRows_eq_mapM, map_eq_pure_bind, bind_eq_ok_iff, pure_eq_ok_iff,
    mapM_eq_ok_iff, readRow_eq_ok_iff]
  exact exists_congr fun records => and_congr_right' eq_comm

theorem readRows_fails_iff :
    (∃ error, readRows inputs rows = .error error ∧ error.reason = reason) ↔
      FirstOffence rows reason := by
  simp only [readRows_eq_mapM, map_eq_pure_bind, bind_eq_error_iff, pure_eq_error_iff,
    and_false, exists_false, or_false, mapM_eq_error_iff, readRow_eq_ok_iff, FirstOffence,
    ← readRow_fails_iff]
  constructor
  · intro ⟨error, ⟨before, row, after, equal, shown, failed⟩, sameReason⟩
    exact ⟨before, row, after, equal, shown, error, failed, sameReason⟩
  · intro ⟨before, row, after, equal, shown, error, failed, sameReason⟩
    exact ⟨error, ⟨before, row, after, equal, shown, failed⟩, sameReason⟩

/-! ## The page -/

theorem foldl_insert_eq_ofList (records : List InputRecord) :
    records.foldl (fun map record => map.insert record.name record) NameTable.empty =
      NameTable.ofList (records.map fun record => (record.name, record)) := by
  rw [NameTable.ofList, List.foldl_map]

theorem isEmpty_iff_of_readRows (read : readRows .empty rows = .ok table) :
    table.isEmpty = true ↔ rows = [] := by
  rcases readRows_eq_ok_iff.mp read with ⟨records, shown, equal⟩
  rw [equal, foldl_insert_eq_ofList, NameTable.isEmpty_ofList_iff, List.map_eq_nil_iff,
    ← List.length_eq_zero_iff, ← shown.length_eq, List.length_eq_zero_iff]

variable {text : String}

theorem readInputs_eq_ok_iff :
    readInputs text = .ok inputs ↔
      Text.rows text.toList ≠ [] ∧ ∃ records,
        List.Forall₂ Shows (Text.rows text.toList) records ∧
        inputs = NameTable.ofList (records.map fun record => (record.name, record)) := by
  simp only [readInputs, bind_eq_ok_iff, ← foldl_insert_eq_ofList, ← readRows_eq_ok_iff]
  constructor
  · intro ⟨table, read, accepted⟩
    split at accepted
    next => cases accepted
    next nonempty =>
      cases accepted
      exact ⟨mt (isEmpty_iff_of_readRows read).mpr nonempty, read⟩
  · intro ⟨someRow, read⟩
    refine ⟨inputs, read, ?_⟩
    rw [if_neg (mt (isEmpty_iff_of_readRows read).mp someRow)]
    rfl

theorem readInputs_fails_iff :
    (∃ error, readInputs text = .error error ∧ error.reason = reason) ↔
      Text.rows text.toList = [] ∧ reason = "no inputs" ∨
        FirstOffence (Text.rows text.toList) reason := by
  constructor
  · intro ⟨error, failed, sameReason⟩
    rw [readInputs, bind_eq_error_iff] at failed
    rcases failed with failedRows | ⟨table, read, failed⟩
    · exact .inr (readRows_fails_iff.mp ⟨error, failedRows, sameReason⟩)
    · split at failed
      next empty =>
        cases failed
        exact .inl ⟨(isEmpty_iff_of_readRows read).mp empty, sameReason.symm⟩
      next => cases failed
  · intro either
    rcases either with ⟨noRows, isReason⟩ | offence
    · rw [readInputs, noRows]
      exact ⟨.noInputs, rfl, isReason.symm⟩
    · rcases readRows_fails_iff.mpr offence with ⟨error, failedRows, sameReason⟩
      exact ⟨error, bind_eq_error_iff.mpr (.inl failedRows), sameReason⟩

/-- The reason for a row names it, which that for a page without rows does not. -/
theorem Offends.ne_noInputs (offends : Offends row reason) : reason ≠ "no inputs" := by
  intro same
  have start := congrArg (fun text => text.toList.head?) same
  cases offends with
  | columns cut count => simp at start
  | column cut firstBad => simp at start

end

/-! ## Accepted and refused pages -/

section

variable {text : String} {page : Page} {error : ParseError}

theorem parseInputs_eq_ok_iff :
    parseInputs text = .ok page ↔
      Text.rows text.toList ≠ [] ∧ ∃ records inputs,
        List.Forall₂ Shows (Text.rows text.toList) records ∧ page = .inputs inputs ∧
        ∀ name record, inputs.get? name = some record ↔
          LastNamed InputRecord.name records name record := by
  have accepted : parseInputs text = .ok page ↔
      ∃ inputs, readInputs text = .ok inputs ∧ page = .inputs inputs := by
    rw [parseInputs]
    cases readInputs text with
    | ok inputs => simp [eq_comm]
    | error error => simp
  simp only [accepted, readInputs_eq_ok_iff]
  constructor
  · intro ⟨inputs, ⟨someRow, records, shown, equal⟩, isPage⟩
    refine ⟨someRow, records, inputs, shown, isPage, ?_⟩
    intro name record
    rw [equal]
    exact get?_ofList_eq_some_iff_lastNamed
  · intro ⟨someRow, records, inputs, shown, isPage, keepsLast⟩
    refine ⟨inputs, ⟨someRow, records, shown, ?_⟩, isPage⟩
    apply NameTable.ext_get?
    intro name
    apply Option.ext
    intro record
    rw [keepsLast]
    exact get?_ofList_eq_some_iff_lastNamed.symm

theorem exists_page_iff :
    (∃ page, parseInputs text = .ok page) ↔
      Text.rows text.toList ≠ [] ∧
        ∀ row ∈ Text.rows text.toList, ∃ record, Shows row record := by
  simp only [parseInputs_eq_ok_iff, ← exists_forall₂_iff]
  constructor
  · intro ⟨page, someRow, records, inputs, shown, _⟩
    exact ⟨someRow, records, shown⟩
  · intro ⟨someRow, records, shown⟩
    exact ⟨_, someRow, records, _, shown, rfl,
      fun name record => get?_ofList_eq_some_iff_lastNamed⟩

theorem parseInputs_eq_error_iff :
    parseInputs text = .error error ↔
      error.page = "inputs page" ∧
        (Text.rows text.toList = [] ∧ error.reason = "no inputs" ∨
          FirstOffence (Text.rows text.toList) error.reason) := by
  rw [← readInputs_fails_iff, parseInputs]
  cases readInputs text with
  | ok inputs => simp
  | error cause =>
      rcases error with ⟨page, reason⟩
      simp [inputsPageName, eq_comm]

end

/-- A text is accepted exactly if it has rows and all of them are of the grammar. The map
then has the last record of each name and nothing else. Otherwise the first row that is
not of the grammar is the error, or that there is none. -/
theorem parseInputs_grammar (text : String) :
    ∃ rows, Text.RowsOf text.toList rows ∧
      ((∃ page, parseInputs text = .ok page) ↔
        rows ≠ [] ∧ ∀ row ∈ rows, ∃ record, Shows row record) ∧
      (∀ page, parseInputs text = .ok page ↔
        rows ≠ [] ∧ ∃ records inputs, List.Forall₂ Shows rows records ∧
          page = .inputs inputs ∧ ∀ name record, inputs.get? name = some record ↔
            LastNamed InputRecord.name records name record) ∧
      (∀ error, parseInputs text = .error error ↔
        error.page = "inputs page" ∧
          (rows = [] ∧ error.reason = "no inputs" ∨ FirstOffence rows error.reason)) ∧
      (parseInputs text = .error { page := "inputs page", reason := "no inputs" } ↔
        rows = []) := by
  refine ⟨Text.rows text.toList, Text.rowsOf_iff.mpr rfl, exists_page_iff,
    fun page => parseInputs_eq_ok_iff, fun error => parseInputs_eq_error_iff, ?_⟩
  · rw [parseInputs_eq_error_iff]
    constructor
    · intro ⟨_, either⟩
      rcases either with ⟨noRows, _⟩ | ⟨before, row, after, _, _, offends⟩
      · exact noRows
      · exact absurd rfl offends.ne_noInputs
    · intro noRows
      exact ⟨rfl, .inl ⟨noRows, rfl⟩⟩

end PlainPage

end SignalControl
