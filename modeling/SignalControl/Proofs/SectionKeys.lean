import SignalControl.Config.File
import SignalControl.Proofs.KnownKeys

namespace SignalControl.Config

/-! The section of a document is read key by key. Every known key sets its own field, and
nothing else in the document matters: not the other keys of the section, not those of its
groups, and not the other sections. -/

/-! ## Documents -/

/-- A text is a document with a section at a key. The section is written out as a document
of its own and read again, which gives it back. Its known groups are tables. -/
structure HasSection (text key : String) (entries : List (String × Toml.Value)) : Prop where
  read : ∃ document, Toml.read? text = some document ∧
    document.lookup key = some (.table entries)
  complete : Toml.isDocument entries = true
  tables : GroupsAreTables entries

namespace HasSection

variable {text otherText key : String} {entries others : List (String × Toml.Value)}
  {client : Client}

theorem bounded (given : HasSection text key entries) :
    ∀ entry ∈ entries, entry.2.Bounded := by
  rcases given.read with ⟨document, read, found⟩
  rcases List.lookup_eq_some_iff.mp found with ⟨before, after, split, -⟩
  have within := Toml.read?_bounded read (key, .table entries) (by simp [split])
  exact Toml.Value.bounded_table.mp within

theorem readSection_eq_ok_iff (given : HasSection text key entries) :
    readSection text key = .ok (some client) ↔
      ∀ known ∈ knownKeys, known.Holds entries client := by
  rcases given.read with ⟨document, read, found⟩
  rw [← Client.ofSetting?_eq_some_iff_holds given.bounded given.tables]
  simp only [readSection, read, sectionOf, found, readTable, given.complete, if_true]
  cases Client.ofSetting? .ignored (.ofToml (.table entries)) <;> simp [Except.map]

theorem exists_readSection_iff (given : HasSection text key entries) :
    (∃ client, readSection text key = .ok (some client)) ↔
      ∀ known ∈ knownKeys, known.IsAccepted entries := by
  simp only [given.readSection_eq_ok_iff]
  constructor
  · rintro ⟨client, holds⟩ known isKnown
    exact (holds known isKnown).1
  · exact exists_client

theorem readSection_eq_error (given : HasSection text key entries)
    (refused : ¬ ∀ known ∈ knownKeys, known.IsAccepted entries) :
    readSection text key = .error .invalidSection := by
  have unread := mt given.exists_readSection_iff.mp refused
  rcases given.read with ⟨document, read, found⟩
  simp only [readSection, read, sectionOf, found, readTable, given.complete, if_true]
    at unread ⊢
  cases result : Client.ofSetting? .ignored (.ofToml (.table entries)) with
  | none => rfl
  | some client => exact absurd ⟨client, by rw [result]; rfl⟩ unread

/-- What else stands in the section or around it does not matter. -/
theorem readSection_eq (given : HasSection text key entries)
    (otherGiven : HasSection otherText key others)
    (agree : ∀ known ∈ knownKeys, known.value? others = known.value? entries) :
    readSection otherText key = readSection text key := by
  by_cases accepted : ∀ known ∈ knownKeys, known.IsAccepted entries
  · rcases given.exists_readSection_iff.mpr accepted with ⟨client, read⟩
    rw [read, otherGiven.readSection_eq_ok_iff]
    intro known isKnown
    have holds := given.readSection_eq_ok_iff.mp read known isKnown
    simpa only [Key.Holds, Key.IsAccepted, Key.Sets, agree known isKnown] using holds
  · rw [given.readSection_eq_error accepted]
    apply otherGiven.readSection_eq_error
    intro otherAccepted
    apply accepted
    intro known isKnown
    simpa only [Key.IsAccepted, agree known isKnown] using otherAccepted known isKnown

end HasSection

/-- A section is read key by key. It makes a client exactly if every known key that is
present has its type and range, and is invalid otherwise. Each field of the client has the
value of its own key, or its default without one. Texts whose sections agree on the known
keys are read alike, whatever else stands in them. -/
theorem readSection_keys {text key : String} {entries : List (String × Toml.Value)}
    (given : HasSection text key entries) :
    ((∃ client, readSection text key = .ok (some client)) ↔
        ∀ known ∈ knownKeys, known.IsAccepted entries) ∧
      ((¬ ∀ known ∈ knownKeys, known.IsAccepted entries) →
        readSection text key = .error .invalidSection) ∧
      (∀ client, readSection text key = .ok (some client) ↔
        ∀ known ∈ knownKeys, known.IsAccepted entries ∧ known.Sets entries client) ∧
      ∀ otherText others, HasSection otherText key others →
        (∀ known ∈ knownKeys, known.value? others = known.value? entries) →
        readSection otherText key = readSection text key := by
  refine ⟨given.exists_readSection_iff, given.readSection_eq_error, ?_, ?_⟩
  · intro client
    exact given.readSection_eq_ok_iff
  · intro otherText others otherGiven agree
    exact given.readSection_eq otherGiven agree

/-! ## Two documents with the same client -/

def timedText : String :=
  "[peek-http.transport]\nmax_in_flight = 3\n"

def timedEntries : List (String × Toml.Value) :=
  [("transport", .table [("max_in_flight", .integer 3)])]

def surplusText : String :=
  "[peek-http]\nsurplus = [1, 2]\n" ++
    "[peek-http.transport]\nmax_in_flight = 3\nspare = 0\n" ++
    "[other]\nkept = true\n"

def surplusEntries : List (String × Toml.Value) :=
  [("surplus", .array [.integer 1, .integer 2]),
    ("transport", .table [("max_in_flight", .integer 3), ("spare", .integer 0)])]

theorem timedText_hasSection : HasSection timedText sectionKey timedEntries where
  read := ⟨[(sectionKey, .table timedEntries)], by decide +kernel, rfl⟩
  complete := rfl
  tables := by simp [GroupsAreTables, groupNames, timedEntries, List.lookup_cons]

theorem surplusText_hasSection : HasSection surplusText sectionKey surplusEntries where
  read := by
    refine ⟨[(sectionKey, .table surplusEntries),
      ("other", .table [("kept", .boolean true)])], ?_, rfl⟩
    decide +kernel
  complete := rfl
  tables := by simp [GroupsAreTables, groupNames, surplusEntries, List.lookup_cons]

theorem timed_readSection_keys :
    readSection timedText sectionKey =
        .ok (some { transport := { maxInFlight := 3 } }) ∧
      readSection surplusText sectionKey = readSection timedText sectionKey := by
  rcases readSection_keys timedText_hasSection with ⟨-, -, fields, same⟩
  have inRange : ∃ number : Nat, (3 : Int) = number ∧ number < Nat.pow 2 63 :=
    ⟨3, rfl, by decide⟩
  constructor
  · rw [fields]
    simpa [knownKeys, Key.text, Key.optionalText, Key.texts, Key.natural, Key.count,
      Key.of, Key.IsAccepted, Key.Sets, Key.value?, groupEntries, timedEntries,
      List.lookup_cons, Content.Accepts, shownText, shownOptionalText, shownTexts,
      shownNatural, shownCount] using inRange
  · refine same surplusText surplusEntries surplusText_hasSection ?_
    simp [knownKeys, Key.text, Key.optionalText, Key.texts, Key.natural, Key.count, Key.of,
      Key.value?, groupEntries, timedEntries, surplusEntries, List.lookup_cons]

end SignalControl.Config
