import SignalControl.Toml.Document

namespace SignalControl.Toml

/-! A document has no integer beyond 64 bits. Integers are checked where they are read,
and the tables of a document are put together from the values that were read. -/

/-! ## Values -/

mutual
def Value.Bounded : Value → Prop
  | .integer value => fits value = true
  | .array items => ItemsBounded items
  | .table entries => EntriesBounded entries
  | _ => True

def ItemsBounded : List Value → Prop
  | [] => True
  | item :: rest => item.Bounded ∧ ItemsBounded rest

def EntriesBounded : List (String × Value) → Prop
  | [] => True
  | (_, value) :: rest => value.Bounded ∧ EntriesBounded rest
end

theorem itemsBounded_iff {items : List Value} :
    ItemsBounded items ↔ ∀ item ∈ items, item.Bounded := by
  induction items with
  | nil => simp [ItemsBounded]
  | cons item rest induction => rw [ItemsBounded, induction, List.forall_mem_cons]

theorem entriesBounded_iff {entries : List (String × Value)} :
    EntriesBounded entries ↔ ∀ entry ∈ entries, entry.2.Bounded := by
  induction entries with
  | nil => simp [EntriesBounded]
  | cons entry rest induction => rw [EntriesBounded, induction, List.forall_mem_cons]

@[simp] theorem Value.bounded_array {items : List Value} :
    (Value.array items).Bounded ↔ ∀ item ∈ items, item.Bounded := by
  rw [Bounded, itemsBounded_iff]

@[simp] theorem Value.bounded_table {entries : List (String × Value)} :
    (Value.table entries).Bounded ↔ ∀ entry ∈ entries, entry.2.Bounded := by
  rw [Bounded, entriesBounded_iff]

/-! ## Readers -/

def Gives {α : Type} (reader : Reader α) (kind : α → Prop) : Prop :=
  ∀ text content rest, reader text = some (content, rest) → kind content

theorem decimalInteger?_gives : Gives decimalInteger? fun value => fits value = true := by
  intro text value rest read
  simp only [decimalInteger?, Option.bind_eq_bind, Option.bind_eq_some_iff] at read
  rcases read with ⟨digits, -, read⟩
  split at read
  · cases read
    assumption
  · cases read

theorem baseInteger?_gives (base : Nat) :
    Gives (baseInteger? base) fun value => fits value = true := by
  intro text value rest read
  simp only [baseInteger?, Option.bind_eq_bind, Option.bind_eq_some_iff] at read
  rcases read with ⟨digits, -, read⟩
  split at read
  · cases read
    assumption
  · cases read

theorem integer?_gives : Gives integer? fun value => fits value = true := by
  intro text value rest read
  unfold integer? at read
  split at read
  · exact baseInteger?_gives _ _ _ _ read
  · exact baseInteger?_gives _ _ _ _ read
  · exact baseInteger?_gives _ _ _ _ read
  · exact decimalInteger?_gives _ _ _ read

theorem boolean?_gives : Gives boolean? Value.Bounded := by
  intro text value rest read
  unfold boolean? at read
  split at read
  · cases read; trivial
  · cases read; trivial
  · cases read

theorem number?_gives : Gives number? Value.Bounded := by
  intro text value rest read
  unfold number? at read
  split at read
  · cases read; trivial
  · split at read
    · cases read; trivial
    · rcases Option.map_eq_some_iff.mp read with ⟨⟨number, after⟩, isRead, equal⟩
      cases equal
      exact integer?_gives _ _ _ isRead

theorem plainValue?_gives : Gives plainValue? Value.Bounded := by
  intro text value rest read
  simp only [plainValue?, Option.or_eq_some_iff] at read
  rcases read with isText | ⟨-, isBoolean | ⟨-, isNumber⟩⟩
  · rcases Option.map_eq_some_iff.mp isText with ⟨⟨quoted, after⟩, -, equal⟩
    cases equal
    trivial
  · exact boolean?_gives _ _ _ isBoolean
  · exact number?_gives _ _ _ isNumber

section

variable {reader : Reader Value} (bounded : Gives reader Value.Bounded)

include bounded

theorem arrayItems_gives :
    Gives (arrayItems reader) fun items => ∀ item ∈ items, item.Bounded := by
  intro text
  fun_induction arrayItems reader text with
  | case1 text after closed =>
      rintro _ _ ⟨⟩
      simp
  | case2 text open_ failed => rintro _ _ ⟨⟩
  | case3 text item rest after closed open_ isRead =>
      rintro _ _ ⟨⟩
      simpa using bounded _ _ _ isRead
  | case4 text item rest more separated shorter open_ isRead induction =>
      intro items after read
      rcases Option.map_eq_some_iff.mp read with ⟨⟨others, _⟩, othersRead, equal⟩
      cases equal
      exact List.forall_mem_cons.mpr ⟨bounded _ _ _ isRead, induction _ _ othersRead⟩
  | case5 => rintro _ _ ⟨⟩
  | case6 => rintro _ _ ⟨⟩

theorem pair?_gives : Gives (pair? reader) fun pair => pair.value.Bounded := by
  intro text pair rest read
  simp only [pair?, Option.bind_eq_bind, Option.bind_eq_some_iff, Option.pure_def] at read
  rcases read with ⟨key, -, ⟨start, -, ⟨value, after⟩, isRead, equal⟩⟩
  cases equal
  exact bounded _ _ _ isRead

theorem inlinePairs_gives :
    Gives (inlinePairs reader) fun pairs => ∀ pair ∈ pairs, pair.value.Bounded := by
  intro text
  fun_induction inlinePairs reader text with
  | case1 => rintro _ _ ⟨⟩
  | case2 text pair rest isRead after closed =>
      rintro _ _ ⟨⟩
      simpa using pair?_gives bounded _ _ _ isRead
  | case3 text pair rest isRead more separated shorter induction =>
      intro pairs after read
      rcases Option.map_eq_some_iff.mp read with ⟨⟨others, _⟩, othersRead, equal⟩
      cases equal
      exact List.forall_mem_cons.mpr
        ⟨pair?_gives bounded _ _ _ isRead, induction _ _ othersRead⟩
  | case4 => rintro _ _ ⟨⟩
  | case5 => rintro _ _ ⟨⟩

end

/-! ## Drafts -/

theorem finishEntries_eq_map (entries : List (String × Item)) :
    finishEntries entries = entries.map fun entry => (entry.1, entry.2.toValue) := by
  induction entries with
  | nil => simp [finishEntries]
  | cons entry rest induction => rw [finishEntries, induction, List.map_cons]

theorem finishAll_eq_map (elements : List Draft) :
    finishAll elements = elements.map fun element => .table element.finish := by
  induction elements with
  | nil => simp [finishAll]
  | cons element rest induction => rw [finishAll, induction, List.map_cons]

def Item.Bounded (item : Item) : Prop :=
  item.toValue.Bounded

def Draft.Bounded (draft : Draft) : Prop :=
  ∀ entry ∈ draft.entries, entry.2.Bounded

theorem Draft.bounded_finish {draft : Draft} :
    (∀ entry ∈ draft.finish, entry.2.Bounded) ↔ draft.Bounded := by
  cases draft with
  | of origin entries =>
      rw [finish, finishEntries_eq_map, List.forall_mem_map]
      rfl

@[simp] theorem Item.bounded_value {value : Value} :
    (Item.value value).Bounded ↔ value.Bounded := by
  rw [Bounded, toValue]

@[simp] theorem Item.bounded_table {table : Draft} :
    (Item.table table).Bounded ↔ table.Bounded := by
  rw [Bounded, toValue, Value.bounded_table, Draft.bounded_finish]

@[simp] theorem Item.bounded_tables {elements : List Draft} :
    (Item.tables elements).Bounded ↔ ∀ element ∈ elements, element.Bounded := by
  rw [Bounded, toValue, Value.bounded_array, finishAll_eq_map, List.forall_mem_map]
  simp only [Value.bounded_table, Draft.bounded_finish]

namespace Draft

variable {draft : Draft} {key : String} {item : Item}

theorem bounded_empty (origin : Origin) : (empty origin).Bounded := by
  simp [Bounded, empty, entries]

theorem Bounded.get? (bounded : draft.Bounded) (found : draft.get? key = some item) :
    item.Bounded := by
  rcases List.lookup_eq_some_iff.mp found with ⟨before, after, entries, -⟩
  exact bounded (key, item) (by simp [entries])

theorem Bounded.put (bounded : draft.Bounded) (new : item.Bounded) :
    (draft.put key item).Bounded := by
  intro entry member
  simp only [Draft.put, entries] at member
  split at member
  · rcases List.mem_map.mp member with ⟨old, isOld, rfl⟩
    split
    · exact new
    · exact bounded old isOld
  · rcases List.mem_append.mp member with isOld | isNew
    · exact bounded entry isOld
    · rw [List.mem_singleton.mp isNew]
      exact new

theorem Bounded.putLast (bounded : draft.Bounded) (new : item.Bounded) :
    (draft.putLast key item).Bounded := by
  intro entry member
  simp only [Draft.putLast, entries] at member
  rcases List.mem_append.mp member with isOld | isNew
  · exact bounded entry (List.mem_filter.mp isOld).1
  · rw [List.mem_singleton.mp isNew]
    exact new

theorem Bounded.modifyAt {origin : Origin} {change : Draft → Option Draft}
    (kept : ∀ table changed, table.Bounded → change table = some changed →
      changed.Bounded) {path : List String} {result : Draft} (bounded : draft.Bounded)
    (modified : draft.modifyAt origin change path = some result) : result.Bounded := by
  induction path generalizing draft result with
  | nil => exact kept _ _ bounded modified
  | cons key path induction =>
      rw [Draft.modifyAt] at modified
      split at modified
      case h_1 missing =>
        simp only [Option.bind_eq_bind, Option.bind_eq_some_iff] at modified
        rcases modified with ⟨child, isChild, ⟨⟩⟩
        have inside := induction (bounded_empty origin) isChild
        exact bounded.put (Item.bounded_table.mpr inside)
      case h_2 => cases modified
      case h_3 child found =>
        have within := Item.bounded_table.mp (bounded.get? found)
        split at modified
        · cases modified
        · simp only [Option.bind_eq_bind, Option.bind_eq_some_iff] at modified
          rcases modified with ⟨changed, isChanged, ⟨⟩⟩
          have inside := induction within isChanged
          exact bounded.put (Item.bounded_table.mpr inside)
      case h_4 elements found =>
        have within := Item.bounded_tables.mp (bounded.get? found)
        simp only [Option.bind_eq_bind, Option.bind_eq_some_iff] at modified
        rcases modified with ⟨last, isLast, changed, isChanged, ⟨⟩⟩
        have inside := induction (within last (List.mem_of_getLast? isLast)) isChanged
        apply bounded.put
        rw [Item.bounded_tables, List.forall_mem_append]
        exact ⟨fun element member => within element (List.dropLast_subset _ member),
          by simpa using inside⟩

theorem Bounded.addPair {pair : Pair} {result : Draft} (bounded : draft.Bounded)
    (new : pair.value.Bounded) (added : draft.addPair pair = some result) :
    result.Bounded := by
  refine bounded.modifyAt ?_ added
  intro table changed within isChanged
  split at isChanged
  · cases isChanged
  · split at isChanged
    · cases isChanged
    · cases isChanged
      exact within.put (Item.bounded_value.mpr new)

theorem Bounded.addPairs {pairs : List Pair} {result : Draft} (bounded : draft.Bounded)
    (new : ∀ pair ∈ pairs, pair.value.Bounded)
    (added : draft.addPairs pairs = some result) : result.Bounded := by
  induction pairs generalizing draft with
  | nil =>
      cases added
      exact bounded
  | cons pair rest induction =>
      rw [Draft.addPairs, List.foldlM_cons] at added
      rcases Option.bind_eq_some_iff.mp added with ⟨next, isNext, restAdded⟩
      rw [List.forall_mem_cons] at new
      exact induction (bounded.addPair new.1 isNext) new.2 restAdded

theorem Bounded.addTable {path : List String} {pairs : List Pair} {result : Draft}
    (bounded : draft.Bounded) (new : ∀ pair ∈ pairs, pair.value.Bounded)
    (added : draft.addTable path key pairs = some result) : result.Bounded := by
  refine bounded.modifyAt ?_ added
  intro parent changed within isChanged
  have filled : ∀ current : Draft, current.Bounded →
      ((current.markGiven.addPairs pairs).bind fun filled =>
        some (parent.putLast key (.table filled))) = some changed → changed.Bounded := by
    intro current before isFilled
    rcases Option.bind_eq_some_iff.mp isFilled with ⟨table, isTable, ⟨⟩⟩
    have given : current.markGiven.Bounded := by
      cases current
      exact before
    exact within.putLast (Item.bounded_table.mpr (given.addPairs new isTable))
  simp only [Option.bind_eq_bind, Option.pure_def] at isChanged
  split at isChanged
  case h_1 => exact filled _ (bounded_empty _) isChanged
  case h_2 table found =>
    split at isChanged
    · exact filled _ (Item.bounded_table.mp (within.get? found)) isChanged
    · cases isChanged
  case h_3 => cases isChanged

theorem Bounded.addElement {path : List String} {pairs : List Pair} {result : Draft}
    (bounded : draft.Bounded) (new : ∀ pair ∈ pairs, pair.value.Bounded)
    (added : draft.addElement path key pairs = some result) : result.Bounded := by
  refine bounded.modifyAt ?_ added
  intro parent changed within isChanged
  have extended : ∀ elements : List Draft, (∀ element ∈ elements, element.Bounded) →
      (((empty .given).addPairs pairs).bind fun element =>
        some (parent.put key (.tables (elements ++ [element])))) = some changed →
      changed.Bounded := by
    intro elements before isExtended
    rcases Option.bind_eq_some_iff.mp isExtended with ⟨element, isElement, ⟨⟩⟩
    apply within.put
    rw [Item.bounded_tables, List.forall_mem_append]
    exact ⟨before, by simpa using (bounded_empty .given).addPairs new isElement⟩
  simp only [Option.bind_eq_bind, Option.pure_def] at isChanged
  split at isChanged
  case h_1 => exact extended _ (by simp) isChanged
  case h_2 elements found =>
    exact extended _ (Item.bounded_tables.mp (within.get? found)) isChanged
  case h_3 => cases isChanged

end Draft

/-! ## Nested values -/

theorem inlineTable?_gives {reader : Reader Value} (bounded : Gives reader Value.Bounded) :
    Gives (inlineTable? reader) Value.Bounded := by
  intro text value rest read
  have filled : ∀ given : List Draft.Pair × List Char,
      (∀ pair ∈ given.1, pair.value.Bounded) →
      (((Draft.empty .given).addPairs given.1).bind fun table =>
        some (Value.table table.finish, given.2)) = some (value, rest) →
      value.Bounded := by
    intro given each isFilled
    rcases Option.bind_eq_some_iff.mp isFilled with ⟨table, isTable, ⟨⟩⟩
    rw [Value.bounded_table, Draft.bounded_finish]
    exact (Draft.bounded_empty .given).addPairs each isTable
  simp only [inlineTable?, Option.bind_eq_bind, Option.pure_def] at read
  split at read
  · exact filled ([], _) (by simp) read
  · rcases Option.bind_eq_some_iff.mp read with ⟨⟨pairs, after⟩, pairsRead, isFilled⟩
    exact filled (pairs, after) (inlinePairs_gives bounded _ _ _ pairsRead) isFilled

theorem value_gives (depth : Nat) : Gives (value depth) Value.Bounded := by
  induction depth with
  | zero =>
      intro text content rest read
      unfold value at read
      exact plainValue?_gives _ _ _ read
  | succ depth induction =>
      intro text content rest read
      unfold value at read
      split at read
      case h_1 outer inner after equal =>
        cases equal
        rcases Option.map_eq_some_iff.mp read with ⟨⟨items, after⟩, isRead, ⟨⟩⟩
        exact Value.bounded_array.mpr (arrayItems_gives induction _ _ _ isRead)
      case h_2 outer inner after equal =>
        cases equal
        exact inlineTable?_gives induction _ _ _ read
      case h_3 => exact plainValue?_gives _ _ _ read

/-! ## Lines -/

def Line.Bounded : Line → Prop
  | .pair given => given.value.Bounded
  | .table _ _ => True
  | .element _ _ => True

theorem header?_gives : Gives header? Line.Bounded := by
  intro text line rest read
  unfold header? at read
  split at read
  · simp only [Option.bind_eq_bind, Option.bind_eq_some_iff] at read
    rcases read with ⟨key, -, -, -, -, -, ⟨⟩⟩
    trivial
  · simp only [Option.bind_eq_bind, Option.bind_eq_some_iff] at read
    rcases read with ⟨key, -, -, -, ⟨⟩⟩
    trivial
  · cases read

theorem line?_gives : Gives line? Line.Bounded := by
  intro text line rest read
  unfold line? at read
  split at read
  · exact header?_gives _ _ _ read
  · rcases Option.map_eq_some_iff.mp read with ⟨⟨pair, after⟩, isRead, ⟨⟩⟩
    exact pair?_gives (value_gives _) _ _ _ isRead

theorem lines_bounded {text : List Char} {found : List Line}
    (read : lines text = some found) : ∀ line ∈ found, line.Bounded := by
  fun_induction lines text generalizing found with
  | case1 =>
      cases read
      simp
  | case2 => cases read
  | case3 => cases read
  | case4 text line rest after ended shorter _ isRead induction =>
      rcases Option.map_eq_some_iff.mp read with ⟨others, othersRead, rfl⟩
      exact List.forall_mem_cons.mpr ⟨line?_gives _ _ _ isRead, induction othersRead⟩
  | case5 => cases read

/-! ## Documents -/

theorem leadingPairs_bounded {given : List Line}
    (bounded : ∀ line ∈ given, line.Bounded) :
    (∀ pair ∈ (leadingPairs given).1, pair.value.Bounded) ∧
      ∀ line ∈ (leadingPairs given).2, line.Bounded := by
  fun_induction leadingPairs given with
  | case1 pair rest pairs others equal induction =>
      rw [List.forall_mem_cons] at bounded
      rw [equal] at induction
      rcases induction bounded.2 with ⟨pairsBounded, othersBounded⟩
      exact ⟨List.forall_mem_cons.mpr ⟨bounded.1, pairsBounded⟩, othersBounded⟩
  | case2 => exact ⟨by simp, bounded⟩

theorem addTables_bounded {document result : Draft} {given : List Line}
    (before : document.Bounded) (bounded : ∀ line ∈ given, line.Bounded)
    (added : addTables document given = some result) : result.Bounded := by
  fun_induction addTables document given with
  | case1 document =>
      cases added
      exact before
  | case2 document pair rest induction =>
      rcases Option.bind_eq_some_iff.mp added with ⟨next, isNext, restAdded⟩
      rw [List.forall_mem_cons] at bounded
      exact induction next (before.addPair bounded.1 isNext) bounded.2 restAdded
  | case3 document path key rest induction =>
      rcases Option.bind_eq_some_iff.mp added with ⟨next, isNext, restAdded⟩
      rcases leadingPairs_bounded (List.forall_mem_cons.mp bounded).2 with
        ⟨pairs, others⟩
      exact induction next (before.addTable pairs isNext) others restAdded
  | case4 document path key rest induction =>
      rcases Option.bind_eq_some_iff.mp added with ⟨next, isNext, restAdded⟩
      rcases leadingPairs_bounded (List.forall_mem_cons.mp bounded).2 with
        ⟨pairs, others⟩
      exact induction next (before.addElement pairs isNext) others restAdded

-- A table that becomes a date loses its entries, and every other value keeps its own.
mutual
theorem Value.Bounded.withDates? : {value dated : Value} → value.Bounded →
    value.withDates? = some dated → dated.Bounded
  | .table [], dated, bounded, isDated => by
      rw [Value.withDates?] at isDated
      cases isDated
      exact bounded
  | .table ((key, value) :: rest), dated, bounded, isDated => by
      rw [Value.withDates?] at isDated
      split at isDated
      · rcases Option.map_eq_some_iff.mp isDated with ⟨date, -, rfl⟩
        trivial
      · split at isDated
        case h_1 inner others isInner areOthers =>
          cases isDated
          exact ⟨bounded.1.withDates? isInner,
            entriesWithDates?_bounded bounded.2 areOthers⟩
        case h_2 => cases isDated
  | .array items, dated, bounded, isDated => by
      rw [Value.withDates?] at isDated
      rcases Option.map_eq_some_iff.mp isDated with ⟨others, areOthers, rfl⟩
      exact itemsWithDates?_bounded bounded areOthers
  | .text _, dated, bounded, isDated | .integer _, dated, bounded, isDated
  | .boolean _, dated, bounded, isDated | .fraction _, dated, bounded, isDated
  | .date _, dated, bounded, isDated => by
      cases isDated
      exact bounded

theorem itemsWithDates?_bounded : {items dated : List Value} → ItemsBounded items →
    itemsWithDates? items = some dated → ItemsBounded dated
  | [], dated, bounded, areDated => by
      cases areDated
      exact bounded
  | item :: rest, dated, bounded, areDated => by
      rw [itemsWithDates?] at areDated
      split at areDated
      case h_1 inner others isInner areOthers =>
        cases areDated
        exact ⟨bounded.1.withDates? isInner, itemsWithDates?_bounded bounded.2 areOthers⟩
      case h_2 => cases areDated

theorem entriesWithDates?_bounded : {entries dated : List (String × Value)} →
    EntriesBounded entries → entriesWithDates? entries = some dated → EntriesBounded dated
  | [], dated, bounded, areDated => by
      cases areDated
      exact bounded
  | (key, value) :: rest, dated, bounded, areDated => by
      rw [entriesWithDates?] at areDated
      split at areDated
      case h_1 inner others isInner areOthers =>
        cases areDated
        exact ⟨bounded.1.withDates? isInner, entriesWithDates?_bounded bounded.2 areOthers⟩
      case h_2 => cases areDated
end

theorem read?_bounded {text : String} {document : List (String × Value)}
    (read : read? text = some document) : ∀ entry ∈ document, entry.2.Bounded := by
  simp only [read?, Option.bind_eq_bind, Option.bind_eq_some_iff] at read
  rcases read with ⟨found, areFound, draft, isDraft, isDated⟩
  have within : draft.Bounded :=
    addTables_bounded (Draft.bounded_empty _) (lines_bounded areFound) isDraft
  rw [← entriesBounded_iff]
  exact entriesWithDates?_bounded
    (entriesBounded_iff.mpr (Draft.bounded_finish.mpr within)) isDated

end SignalControl.Toml
