import SignalControl.Proofs.InputsGrammar
import SignalControl.Proofs.Search

namespace SignalControl.PlainPage

/-! The main page as a map. Every row assigns a text to a key, and of the rows of a key the
last one counts. If the page is refused, then for the first row that assigns nothing.
Pages that are put one below the other are read as one, where the later page wins. -/

def keyOf (row : List Char) : String :=
  String.ofList (row.takeWhile (· ≠ '='))

def valueOf (row : List Char) : String :=
  String.ofList (row.dropWhile (· ≠ '=')).tail

def FirstUnassigned (rows : List (List Char)) (reason : String) : Prop :=
  ∃ before row after, rows = before ++ row :: after ∧ (∀ earlier ∈ before, '=' ∈ earlier) ∧
    '=' ∉ row ∧ reason = "bad line " ++ Text.quoted (String.ofList row)

inductive Joined : (first second joined : Except ParseError Page) → Prop
  | first {error : ParseError} {second : Except ParseError Page} :
      Joined (.error error) second (.error error)
  | second {status : MainStatus} {error : ParseError} :
      Joined (.ok (.main status)) (.error error) (.error error)
  | both {earlier later union : MainStatus}
      (wins : ∀ key, union.get? key = (later.get? key).or (earlier.get? key)) :
      Joined (.ok (.main earlier)) (.ok (.main later)) (.ok (.main union))

section

variable {row : List Char} {rows : List (List Char)} {entry : String × String}
  {status table : MainStatus} {error : BadLine}

/-! ## Rows -/

theorem readLine_eq_ok_iff :
    readLine row = .ok entry ↔ '=' ∈ row ∧ (keyOf row, valueOf row) = entry := by
  rw [readLine]
  by_cases assigns : '=' ∈ row
  · rw [Text.splitAtFirst?_of_mem assigns]
    simp [assigns, keyOf, valueOf]
  · rw [Text.splitAtFirst?_eq_none_iff.mpr assigns]
    simp [assigns]

theorem readLine_eq_error_iff : readLine row = .error error ↔ '=' ∉ row ∧ ⟨row⟩ = error := by
  rw [readLine]
  by_cases assigns : '=' ∈ row
  · rw [Text.splitAtFirst?_of_mem assigns]
    simp [assigns]
  · rw [Text.splitAtFirst?_eq_none_iff.mpr assigns]
    simp [assigns]

theorem exists_entry_iff : (∃ entry, readLine row = .ok entry) ↔ '=' ∈ row := by
  simp only [readLine_eq_ok_iff, exists_and_left, exists_eq', and_true]

/-! ## All rows of a page -/

variable {text : String} {page : Page}

theorem mapM_readLine_eq_ok_iff {entries : List (String × String)} :
    rows.mapM readLine = .ok entries ↔
      (∀ row ∈ rows, '=' ∈ row) ∧
        (rows.map fun row => (keyOf row, valueOf row)) = entries := by
  rw [mapM_eq_ok_iff]
  simp only [readLine_eq_ok_iff, List.forall₂_and_left]
  rw [← List.forall₂_map_left_iff (R := fun left right => left = right),
    List.forall₂_eq_eq_eq]

theorem readMain_eq_mapM (text : String) :
    readMain text = NameTable.ofList <$> (Text.rows text.toList).mapM readLine :=
  reader_eq_mapM (fun _ => rfl) (fun _ _ _ => rfl) NameTable.empty _

theorem readMain_eq_ok_iff :
    readMain text = .ok status ↔
      (∀ row ∈ Text.rows text.toList, '=' ∈ row) ∧
        NameTable.ofList
          ((Text.rows text.toList).map fun row => (keyOf row, valueOf row)) = status := by
  simp only [readMain_eq_mapM, map_eq_pure_bind, bind_eq_ok_iff, pure_eq_ok_iff,
    mapM_readLine_eq_ok_iff, and_assoc, exists_and_left, exists_eq_left']

theorem readMain_fails_iff {reason : String} :
    (∃ error, readMain text = .error error ∧ error.reason = reason) ↔
      FirstUnassigned (Text.rows text.toList) reason := by
  simp only [readMain_eq_mapM, map_eq_pure_bind, bind_eq_error_iff, pure_eq_error_iff,
    and_false, exists_false, or_false, mapM_eq_error_iff, readLine_eq_error_iff,
    exists_entry_iff, FirstUnassigned]
  constructor
  · intro ⟨error, ⟨before, row, after, equal, assign, absent, isError⟩, sameReason⟩
    subst isError
    exact ⟨before, row, after, equal, assign, absent, sameReason.symm⟩
  · intro ⟨before, row, after, equal, assign, absent, sameReason⟩
    exact ⟨_, ⟨before, row, after, equal, assign, absent, rfl⟩, sameReason.symm⟩

end

/-! ## The page -/

section

variable {text : String} {page : Page} {error : ParseError}

theorem parseMain_eq_ok_iff_readMain :
    parseMain text = .ok page ↔ ∃ status, readMain text = .ok status ∧ .main status = page := by
  rw [parseMain]
  cases readMain text with
  | ok status => simp
  | error error => simp

theorem exists_mainPage_iff :
    (∃ page, parseMain text = .ok page) ↔ ∀ row ∈ Text.rows text.toList, '=' ∈ row := by
  simp only [parseMain_eq_ok_iff_readMain, readMain_eq_ok_iff]
  constructor
  · intro ⟨page, status, ⟨assign, _⟩, _⟩
    exact assign
  · intro assign
    exact ⟨_, _, ⟨assign, rfl⟩, rfl⟩

theorem parseMain_eq_ok_iff :
    parseMain text = .ok page ↔
      (∀ row ∈ Text.rows text.toList, '=' ∈ row) ∧ ∃ status, page = .main status ∧
        ∀ key value, status.get? key = some value ↔
          ∃ row, LastNamed keyOf (Text.rows text.toList) key row ∧ valueOf row = value := by
  simp only [parseMain_eq_ok_iff_readMain, readMain_eq_ok_iff]
  constructor
  · intro ⟨status, ⟨assign, equal⟩, isPage⟩
    refine ⟨assign, status, isPage.symm, ?_⟩
    intro key value
    rw [← equal]
    exact get?_ofList_map_eq_some_iff
  · intro ⟨assign, status, isPage, keepsLast⟩
    refine ⟨status, ⟨assign, ?_⟩, isPage.symm⟩
    apply NameTable.ext_get?
    intro key
    apply Option.ext
    intro value
    rw [keepsLast]
    exact get?_ofList_map_eq_some_iff

/-- A blank text has no rows, and every row leaves an entry. -/
theorem parseMain_eq_empty_iff :
    parseMain text = .ok (.main .empty) ↔
      ∀ character ∈ text.toList, Text.isBlank character = true := by
  have accepted : parseMain text = .ok (.main .empty) ↔ readMain text = .ok .empty := by
    simp only [parseMain_eq_ok_iff_readMain, Page.main.injEq, exists_eq_right]
  rw [accepted, readMain_eq_ok_iff, ← NameTable.isEmpty_iff_eq_empty,
    NameTable.isEmpty_ofList_iff, List.map_eq_nil_iff, ← Text.rows_eq_nil_iff]
  constructor
  · intro ⟨_, noRows⟩
    exact noRows
  · intro noRows
    exact ⟨by simp [noRows], noRows⟩

theorem parseMain_eq_error_iff :
    parseMain text = .error error ↔
      error.page = "main page" ∧
        FirstUnassigned (Text.rows text.toList) error.reason := by
  rw [← readMain_fails_iff, parseMain]
  cases readMain text with
  | ok status => simp
  | error cause =>
      rcases error with ⟨page, reason⟩
      simp [mainPageName, eq_comm]

theorem joined_parseMain (first second : String) :
    Joined (parseMain first) (parseMain second) (parseMain (first ++ "\n" ++ second)) := by
  have together : Text.rows (first ++ "\n" ++ second).toList =
      Text.rows first.toList ++ Text.rows second.toList := by
    rw [← Text.rows_append]
    simp
  simp only [parseMain, readMain_eq_mapM, together, List.mapM_append]
  cases (Text.rows first.toList).mapM readLine with
  | error error => exact .first
  | ok earlier =>
      cases (Text.rows second.toList).mapM readLine with
      | error error => exact .second
      | ok later => exact .both (NameTable.get?_ofList_append earlier later)

end

/-- A text is accepted exactly if every row has an equals sign, and each key then has the
value of its last row and nothing else is kept. Otherwise the first row without an equals
sign is the error. So a text that stands below another one is read as a page of its own,
whose entries win, the first of two errors counts, and blank texts are the ones that come
to nothing. -/
theorem parseMain_rows :
    (∀ text, ∃ rows, Text.RowsOf text.toList rows ∧
      ((∃ page, parseMain text = .ok page) ↔ ∀ row ∈ rows, '=' ∈ row) ∧
      (∀ page, parseMain text = .ok page ↔
        (∀ row ∈ rows, '=' ∈ row) ∧ ∃ status, page = .main status ∧
          ∀ key value, status.get? key = some value ↔
            ∃ row, LastNamed keyOf rows key row ∧ valueOf row = value) ∧
      (∀ error, parseMain text = .error error ↔
        error.page = "main page" ∧ FirstUnassigned rows error.reason) ∧
      (parseMain text = .ok (.main .empty) ↔
        ∀ character ∈ text.toList, Text.isBlank character = true)) ∧
    ∀ first second,
      Joined (parseMain first) (parseMain second) (parseMain (first ++ "\n" ++ second)) := by
  refine ⟨?_, joined_parseMain⟩
  intro text
  exact ⟨Text.rows text.toList, Text.rowsOf_iff.mpr rfl, exists_mainPage_iff,
    fun page => parseMain_eq_ok_iff, fun error => parseMain_eq_error_iff,
    parseMain_eq_empty_iff⟩

end SignalControl.PlainPage
