namespace SignalControl

/-! A name table is a finite map whose keys are names. Its entries are kept in
strictly increasing name order, so a name occurs at most once, listing the
table needs no sorting, and two tables that answer every lookup alike are the
same table (`NameTable.ext_get?`). -/

structure NameTable (α : Type) where
  entries : List (String × α)
  ascending : entries.Pairwise fun earlier later => earlier.1 < later.1
deriving DecidableEq

namespace NameTable

/-! ## Entry lists -/

def insertEntry (name : String) (value : α) :
    List (String × α) → List (String × α)
  | [] => [(name, value)]
  | (other, kept) :: rest =>
      if name = other then (name, value) :: rest
      else if name < other then (name, value) :: (other, kept) :: rest
      else (other, kept) :: insertEntry name value rest

private theorem fst_of_mem_insertEntry {name : String} {value : α}
    {entries : List (String × α)} {entry : String × α}
    (member : entry ∈ insertEntry name value entries) :
    entry.1 = name ∨ entry ∈ entries := by
  induction entries with
  | nil =>
      left
      simp only [insertEntry, List.mem_singleton] at member
      rw [member]
  | cons head rest induction =>
      rcases head with ⟨other, kept⟩
      simp only [insertEntry] at member
      split at member
      · rcases List.mem_cons.mp member with equal | tail
        · exact .inl (by rw [equal])
        · exact .inr (List.mem_cons_of_mem _ tail)
      · split at member
        · rcases List.mem_cons.mp member with equal | tail
          · exact .inl (by rw [equal])
          · exact .inr tail
        · rcases List.mem_cons.mp member with equal | tail
          · exact .inr (equal ▸ List.mem_cons_self)
          · rcases induction tail with same | old
            · exact .inl same
            · exact .inr (List.mem_cons_of_mem _ old)

private theorem lt_of_ne_of_not_lt {name other : String}
    (different : name ≠ other) (notBefore : ¬ name < other) : other < name :=
  Std.lt_of_le_of_ne (String.not_lt.mp notBefore) (Ne.symm different)

theorem insertEntry_ascending (name : String) (value : α)
    {entries : List (String × α)}
    (ascending : entries.Pairwise fun earlier later => earlier.1 < later.1) :
    (insertEntry name value entries).Pairwise
      fun earlier later => earlier.1 < later.1 := by
  induction entries with
  | nil => exact List.pairwise_singleton _ _
  | cons head rest induction =>
      rcases head with ⟨other, kept⟩
      rcases List.pairwise_cons.mp ascending with ⟨headFirst, restAscending⟩
      simp only [insertEntry]
      split
      next equal =>
        subst equal
        exact List.pairwise_cons.mpr ⟨headFirst, restAscending⟩
      next different =>
        split
        next before =>
          refine List.pairwise_cons.mpr ⟨?_, ascending⟩
          intro entry member
          rcases List.mem_cons.mp member with equal | tail
          · rw [equal]; exact before
          · exact String.lt_trans before (headFirst entry tail)
        next notBefore =>
          refine List.pairwise_cons.mpr ⟨?_, induction restAscending⟩
          intro entry member
          rcases fst_of_mem_insertEntry member with same | old
          · simp only [same]
            exact lt_of_ne_of_not_lt different notBefore
          · exact headFirst entry old

/-! ## Tables -/

def empty : NameTable α := ⟨[], List.Pairwise.nil⟩

instance : EmptyCollection (NameTable α) := ⟨empty⟩

def insert (table : NameTable α) (name : String) (value : α) : NameTable α :=
  ⟨insertEntry name value table.entries,
    insertEntry_ascending name value table.ascending⟩

def get? (table : NameTable α) (name : String) : Option α :=
  table.entries.lookup name

def contains (table : NameTable α) (name : String) : Bool :=
  (table.get? name).isSome

def names (table : NameTable α) : List String :=
  table.entries.map Prod.fst

def isEmpty (table : NameTable α) : Bool :=
  table.entries.isEmpty

def size (table : NameTable α) : Nat :=
  table.entries.length

def map (change : α → β) (table : NameTable α) : NameTable β :=
  ⟨table.entries.map fun entry => (entry.1, change entry.2),
    List.pairwise_map.mpr table.ascending⟩

def ofList (entries : List (String × α)) : NameTable α :=
  entries.foldl (fun table entry => table.insert entry.1 entry.2) empty

/-! ## Lookups after an insertion -/

@[simp] theorem get?_empty (name : String) :
    (empty : NameTable α).get? name = none := rfl

private theorem lookup_cons (name other : String) (value : α)
    (rest : List (String × α)) :
    ((other, value) :: rest).lookup name =
      if name = other then some value else rest.lookup name := by
  rw [List.lookup_cons]
  by_cases equal : name = other
  · simp [equal]
  · rw [beq_eq_false_iff_ne.mpr equal, if_neg equal]

@[simp] theorem get?_insert_same (table : NameTable α) (name : String)
    (value : α) : (table.insert name value).get? name = some value := by
  rcases table with ⟨entries, ascending⟩
  simp only [get?, insert]
  clear ascending
  induction entries with
  | nil => simp [insertEntry]
  | cons head rest induction =>
      rcases head with ⟨other, kept⟩
      simp only [insertEntry]
      split
      next => simp
      next different =>
        split
        next => simp
        next => rw [lookup_cons, if_neg different, induction]

theorem get?_insert_other (table : NameTable α) {name other : String}
    (value : α) (different : other ≠ name) :
    (table.insert name value).get? other = table.get? other := by
  rcases table with ⟨entries, ascending⟩
  simp only [get?, insert]
  clear ascending
  induction entries with
  | nil => simp [insertEntry, lookup_cons, different]
  | cons head rest induction =>
      rcases head with ⟨first, kept⟩
      simp only [insertEntry]
      split
      next equal =>
        subst equal
        rw [lookup_cons, lookup_cons, if_neg different, if_neg different]
      next =>
        split
        next => rw [lookup_cons, if_neg different]
        next => rw [lookup_cons, lookup_cons, induction]

theorem get?_insert (table : NameTable α) (name other : String) (value : α) :
    (table.insert name value).get? other =
      if other = name then some value else table.get? other := by
  by_cases equal : other = name
  · subst equal; simp
  · simp [equal, table.get?_insert_other value equal]

private theorem get?_foldl_insert (value : String → α) (names : List String)
    (table : NameTable α) (name : String) :
    ((names.map fun name => (name, value name)).foldl
        (fun table entry => table.insert entry.1 entry.2) table).get? name =
      if name ∈ names then some (value name) else table.get? name := by
  induction names generalizing table with
  | nil => simp
  | cons first rest induction =>
      rw [List.map_cons, List.foldl_cons, induction, get?_insert]
      by_cases later : name ∈ rest
      · rw [if_pos later, if_pos (List.mem_cons_of_mem first later)]
      · by_cases here : name = first
        · simp [here]
        · simp [later, here]

theorem get?_ofList_map (value : String → α) (names : List String) (name : String) :
    (ofList (names.map fun name => (name, value name))).get? name =
      if name ∈ names then some (value name) else none :=
  get?_foldl_insert value names empty name

private theorem get?_foldl_entries (entries : List (String × α))
    (table : NameTable α) (name : String) :
    (entries.foldl (fun table entry => table.insert entry.1 entry.2) table).get? name =
      ((entries.filter fun entry => entry.1 == name).getLast?.map Prod.snd).or
        (table.get? name) := by
  induction entries generalizing table with
  | nil => rfl
  | cons entry rest induction =>
      rw [List.foldl_cons, induction, get?_insert, List.filter_cons]
      by_cases here : entry.1 = name
      · rw [if_pos here.symm, if_pos (beq_iff_eq.mpr here), List.getLast?_cons]
        cases (rest.filter fun entry => entry.1 == name).getLast? with
        | none => rfl
        | some last => rfl
      · rw [if_neg (Ne.symm here), if_neg (mt beq_iff_eq.mp here)]

/-- Of the values given to a name, the table keeps the last. -/
theorem get?_ofList (entries : List (String × α)) (name : String) :
    (ofList entries).get? name =
      (entries.filter fun entry => entry.1 == name).getLast?.map Prod.snd := by
  rw [ofList, get?_foldl_entries, get?_empty, Option.or_none]

theorem get?_ofList_append (earlier later : List (String × α)) (name : String) :
    (ofList (earlier ++ later)).get? name =
      ((ofList later).get? name).or ((ofList earlier).get? name) := by
  simp only [get?_ofList, List.filter_append, List.getLast?_append, Option.map_or]

theorem get?_ofList_eq_some_iff {entries : List (String × α)} {name : String}
    {value : α} :
    (ofList entries).get? name = some value ↔
      ∃ earlier later, entries = earlier ++ (name, value) :: later ∧
        ∀ entry ∈ later, entry.1 ≠ name := by
  rw [get?_ofList, List.getLast?_filter, Option.map_eq_some_iff]
  constructor
  · intro ⟨⟨other, kept⟩, found, equal⟩
    rcases List.find?_eq_some_iff_append.mp found with ⟨named, before, after, split, absent⟩
    have sameName : other = name := by simpa using named
    subst sameName equal
    refine ⟨after.reverse, before.reverse, ?_, ?_⟩
    · rw [List.reverse_eq_iff] at split
      rw [split]
      simp
    · intro entry member
      simpa using absent entry (List.mem_reverse.mp member)
  · intro ⟨earlier, later, equal, absent⟩
    refine ⟨(name, value), ?_, rfl⟩
    refine List.find?_eq_some_iff_append.mpr
      ⟨beq_self_eq_true name, later.reverse, earlier.reverse, by simp [equal], ?_⟩
    intro entry member
    simpa using absent entry (List.mem_reverse.mp member)

/-! ## Entries and names of a table -/

private theorem lookup_of_mem {name : String} {value : α}
    {entries : List (String × α)}
    (ascending : entries.Pairwise fun earlier later => earlier.1 < later.1)
    (member : (name, value) ∈ entries) : entries.lookup name = some value := by
  induction entries with
  | nil => cases member
  | cons head rest induction =>
      rcases head with ⟨first, kept⟩
      rcases List.pairwise_cons.mp ascending with ⟨headFirst, restAscending⟩
      rw [lookup_cons]
      rcases List.mem_cons.mp member with equal | tail
      · cases equal
        rw [if_pos rfl]
      · have different : name ≠ first := by
          intro equal
          subst equal
          exact String.lt_irrefl _ (headFirst (name, value) tail)
        rw [if_neg different]
        exact induction restAscending tail

theorem mem_entries_iff {table : NameTable α} {name : String} {value : α} :
    (name, value) ∈ table.entries ↔ table.get? name = some value := by
  constructor
  · exact lookup_of_mem table.ascending
  · intro found
    rcases List.lookup_eq_some_iff.mp found with ⟨before, after, equal, -⟩
    rw [equal]
    exact List.mem_append_right _ List.mem_cons_self

theorem isEmpty_iff {table : NameTable α} :
    table.isEmpty = true ↔ ∀ name, table.get? name = none := by
  rw [isEmpty, List.isEmpty_iff]
  constructor
  · intro empty name
    rw [get?, empty]
    rfl
  · intro absent
    apply List.eq_nil_iff_forall_not_mem.mpr
    intro ⟨name, value⟩ member
    rw [mem_entries_iff, absent name] at member
    cases member

theorem isEmpty_ofList_iff {entries : List (String × α)} :
    (ofList entries).isEmpty = true ↔ entries = [] := by
  constructor
  · intro isEmpty
    rcases List.eq_nil_or_concat entries with none | ⟨others, last, split⟩
    · exact none
    · -- The last entry is found under its name.
      have found : (ofList entries).get? last.1 = some last.2 :=
        get?_ofList_eq_some_iff.mpr ⟨others, [], by rw [split, List.concat_eq_append], by simp⟩
      rw [isEmpty_iff.mp isEmpty] at found
      cases found
  · intro none
    rw [none]
    rfl

theorem contains_iff {table : NameTable α} {name : String} :
    table.contains name = true ↔ ∃ value, table.get? name = some value :=
  Option.isSome_iff_exists

theorem mem_names_iff {table : NameTable α} {name : String} :
    name ∈ table.names ↔ ∃ value, table.get? name = some value := by
  rw [names, List.mem_map]
  constructor
  · rintro ⟨⟨_, value⟩, member, rfl⟩
    exact ⟨value, mem_entries_iff.mp member⟩
  · rintro ⟨value, found⟩
    exact ⟨(name, value), mem_entries_iff.mpr found, rfl⟩

theorem names_ascending (table : NameTable α) :
    table.names.Pairwise fun earlier later => earlier < later :=
  List.pairwise_map.mpr table.ascending

theorem names_nodup (table : NameTable α) : table.names.Nodup :=
  table.names_ascending.imp String.ne_of_lt

theorem length_names (table : NameTable α) : table.names.length = table.size :=
  List.length_map _

@[simp] theorem get?_map (change : α → β) (table : NameTable α) (name : String) :
    (table.map change).get? name = (table.get? name).map change := by
  rcases table with ⟨entries, ascending⟩
  simp only [get?, map]
  clear ascending
  induction entries with
  | nil => rfl
  | cons head rest induction =>
      rcases head with ⟨other, kept⟩
      rw [List.map_cons, lookup_cons, lookup_cons, induction]
      split
      next => rfl
      next => rfl

theorem get?_foldl_map (change : α → β → α) (table : NameTable α) (changes : List β)
    (name : String) :
    (changes.foldl (fun changed item => changed.map fun value => change value item)
        table).get? name =
      (table.get? name).map fun value => changes.foldl change value := by
  induction changes generalizing table with
  | nil => simp
  | cons item rest induction =>
      rw [List.foldl_cons, induction, get?_map, Option.map_map]
      rfl

/-! ## Lookups determine the table -/

theorem entries_nodup (table : NameTable α) : table.entries.Nodup := by
  apply table.ascending.imp
  intro earlier later before same
  rw [same] at before
  exact String.lt_irrefl _ before

/-- The lookups tell the entries, and entries have one ascending order only. -/
theorem ext_get? {left right : NameTable α}
    (equal : ∀ name, left.get? name = right.get? name) : left = right := by
  have sameMembers : ∀ entry, entry ∈ left.entries ↔ entry ∈ right.entries := by
    intro ⟨name, value⟩
    rw [mem_entries_iff, mem_entries_iff, equal]
  have permuted : left.entries.Perm right.entries :=
    (List.perm_ext_iff_of_nodup left.entries_nodup right.entries_nodup).mpr sameMembers
  have sameEntries : left.entries = right.entries := by
    refine permuted.eq_of_pairwise ?_ left.ascending right.ascending
    intro earlier later _ _ before after
    exact absurd (String.lt_trans before after) (String.lt_irrefl _)
  rcases left with ⟨leftEntries, leftAscending⟩
  rcases right with ⟨rightEntries, rightAscending⟩
  subst sameEntries
  rfl

theorem isEmpty_iff_eq_empty {table : NameTable α} : table.isEmpty = true ↔ table = empty := by
  constructor
  · intro isEmpty
    apply ext_get?
    intro name
    rw [isEmpty_iff.mp isEmpty name, get?_empty]
  · intro equal
    rw [equal]
    rfl

end NameTable

end SignalControl
