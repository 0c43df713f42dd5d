import SignalControl.Toml.Value

namespace SignalControl.Toml

/-! Tables under construction. A draft remembers how it came to be, because a
table that only a longer header implied may still get a header of its own, one
made by dotted keys may only get more dotted keys, and one that was given whole
may get nothing more. -/

inductive Origin
  | given
  | implied
  | dotted
deriving DecidableEq

mutual
inductive Item
  | value (value : Value)
  | table (table : Draft)
  | tables (elements : List Draft)

inductive Draft
  | of (origin : Origin) (entries : List (String × Item))
end

namespace Draft

def empty (origin : Origin) : Draft := .of origin []

def origin : Draft → Origin
  | .of origin _ => origin

def entries : Draft → List (String × Item)
  | .of _ entries => entries

def get? (draft : Draft) (key : String) : Option Item :=
  draft.entries.lookup key

def put (draft : Draft) (key : String) (item : Item) : Draft :=
  .of draft.origin <|
    if (draft.get? key).isSome then
      draft.entries.map fun entry => if entry.1 = key then (key, item) else entry
    else draft.entries ++ [(key, item)]

def putLast (draft : Draft) (key : String) (item : Item) : Draft :=
  .of draft.origin <|
    (draft.entries.filter fun entry => entry.1 ≠ key) ++ [(key, item)]

/-- Changes the table at the end of a path. Missing tables on the way are made
with the given origin; an array of tables is entered at its last element.
Nothing may be added under a plain value, nor by dotted keys to a table that was
given whole. -/
def modifyAt (origin : Origin) (change : Draft → Option Draft) :
    List String → Draft → Option Draft
  | [], draft => change draft
  | key :: path, draft =>
      match draft.get? key with
      | none => do
          let child ← modifyAt origin change path (empty origin)
          return draft.put key (.table child)
      | some (.value _) => none
      | some (.table child) =>
          if origin = .dotted ∧ child.origin = .given then none
          else do
            let child ← modifyAt origin change path child
            return draft.put key (.table child)
      | some (.tables elements) => do
          let last ← elements.getLast?
          let last ← modifyAt origin change path last
          return draft.put key (.tables (elements.dropLast ++ [last]))

/-! ## Pairs -/

structure Pair where
  path : List String
  key : String
  value : Value

/-- A key is given once, directly in the current table or under a dotted path
through tables that only dotted keys have made. -/
def addPair (draft : Draft) (pair : Pair) : Option Draft :=
  draft.modifyAt .dotted
    (fun table =>
      if (table.origin = .dotted) = (pair.path = []) then none
      else if (table.get? pair.key).isSome then none
      else some (table.put pair.key (.value pair.value)))
    pair.path

def addPairs (draft : Draft) (pairs : List Pair) : Option Draft :=
  pairs.foldlM addPair draft

/-! ## Headers -/

def markGiven : Draft → Draft
  | .of _ entries => .of .given entries

/-- A header opens a table that is new or was only implied so far; in either
case it comes last in its parent. -/
def addTable (path : List String) (key : String) (pairs : List Pair)
    (document : Draft) : Option Draft :=
  document.modifyAt .implied
    (fun parent => do
      let current ←
        match parent.get? key with
        | none => some (empty .given)
        | some (.table table) =>
            if table.origin = .implied then some table else none
        | some _ => none
      let filled ← current.markGiven.addPairs pairs
      return parent.putLast key (.table filled))
    path

def addElement (path : List String) (key : String) (pairs : List Pair)
    (document : Draft) : Option Draft :=
  document.modifyAt .implied
    (fun parent => do
      let elements ←
        match parent.get? key with
        | none => some []
        | some (.tables elements) => some elements
        | some _ => none
      let element ← (empty .given).addPairs pairs
      return parent.put key (.tables (elements ++ [element])))
    path

end Draft

/-! ## Finished tables -/

mutual
def Item.toValue : Item → Value
  | .value value => value
  | .table table => .table table.finish
  | .tables elements => .array (finishAll elements)

def Draft.finish : Draft → List (String × Value)
  | .of _ entries => finishEntries entries

def finishEntries : List (String × Item) → List (String × Value)
  | [] => []
  | (key, item) :: rest => (key, item.toValue) :: finishEntries rest

def finishAll : List Draft → List Value
  | [] => []
  | element :: rest => .table element.finish :: finishAll rest
end

end SignalControl.Toml
