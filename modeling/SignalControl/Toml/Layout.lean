import SignalControl.Toml.Date

namespace SignalControl.Toml

/-! How a table is laid out as a document of its own. Tables, and arrays of
nothing but tables, get headers; every other value is given on the line of its
key, with the tables in it inline. Neither the keys of a header nor the arrays
and inline tables of a value may go deeper than a document allows. -/

def depthLimit : Nat := 80

mutual
def Value.depth : Value → Nat
  | .array items => 1 + depthOfItems items
  | .table entries => 1 + depthOfEntries entries
  | _ => 0

def depthOfItems : List Value → Nat
  | [] => 0
  | item :: rest => max item.depth (depthOfItems rest)

def depthOfEntries : List (String × Value) → Nat
  | [] => 0
  | (_, value) :: rest => max value.depth (depthOfEntries rest)
end

def Value.isTable : Value → Bool
  | .table _ => true
  | _ => false

def areTables (items : List Value) : Bool :=
  !items.isEmpty && items.all Value.isTable

mutual
def Value.fits (length : Nat) : Value → Bool
  | .table entries => length + 1 < depthLimit && entriesFit (length + 1) entries
  | .array items =>
      if areTables items then elementsFit length items
      else (Value.array items).depth < depthLimit
  | _ => true

def elementsFit (length : Nat) : List Value → Bool
  | [] => true
  | element :: rest => element.fits length && elementsFit length rest

def entriesFit (length : Nat) : List (String × Value) → Bool
  | [] => true
  | (_, value) :: rest => value.fits length && entriesFit length rest
end

mutual
def Value.hasPlainDates : Value → Bool
  | .date date => date.isPlain
  | .array items => itemsHavePlainDates items
  | .table entries => entriesHavePlainDates entries
  | _ => true

def itemsHavePlainDates : List Value → Bool
  | [] => true
  | item :: rest => item.hasPlainDates && itemsHavePlainDates rest

def entriesHavePlainDates : List (String × Value) → Bool
  | [] => true
  | (_, value) :: rest => value.hasPlainDates && entriesHavePlainDates rest
end

def isDocument (entries : List (String × Value)) : Bool :=
  entriesFit 0 entries && entriesHavePlainDates entries

end SignalControl.Toml
