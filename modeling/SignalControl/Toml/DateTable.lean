import SignalControl.Toml.Date

namespace SignalControl.Toml

/-! Dates that are given as tables. A table whose first key is reserved for that
is no table but the date under this key, given as a text; what else the table
holds is not looked at. The document itself is always a table. -/

def dateKey : String := "$__toml_private_datetime"

def Date.ofValue? : Value → Option Date
  | .text text => Date.ofText? text
  | _ => none

mutual
def Value.withDates? : Value → Option Value
  | .table [] => some (.table [])
  | .table ((key, value) :: rest) =>
      if key = dateKey then (Date.ofValue? value).map .date
      else
        match value.withDates?, entriesWithDates? rest with
        | some value, some rest => some (.table ((key, value) :: rest))
        | _, _ => none
  | .array items => (itemsWithDates? items).map .array
  | value => some value

def itemsWithDates? : List Value → Option (List Value)
  | [] => some []
  | item :: rest =>
      match item.withDates?, itemsWithDates? rest with
      | some item, some rest => some (item :: rest)
      | _, _ => none

def entriesWithDates? :
    List (String × Value) → Option (List (String × Value))
  | [] => some []
  | (key, value) :: rest =>
      match value.withDates?, entriesWithDates? rest with
      | some value, some rest => some ((key, value) :: rest)
      | _, _ => none
end

end SignalControl.Toml
