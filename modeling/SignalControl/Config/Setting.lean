import SignalControl.Json
import SignalControl.Toml.Value

namespace SignalControl.Config

/-! Settings are what a configuration is read from, whichever notation it is
written in. A group of settings is given by name, or as a list in the order of
its fields. -/

inductive Setting
  | missing
  | text (value : String)
  | integer (value : Int)
  | list (items : List Setting)
  | group (entries : List (String × Setting))
  | other

/-! ## Sources -/

/-- What a source of settings makes of a list that stands for a group but has
more items than the group has fields. -/
inductive Surplus
  | ignored
  | refused
deriving DecidableEq

mutual
def Setting.ofToml : Toml.Value → Setting
  | .text value => .text value
  | .integer value => .integer value
  | .boolean _ => .other
  | .fraction _ => .other
  | .date _ => .group []
  | .array items => .list (ofTomlItems items)
  | .table entries => .group (ofTomlEntries entries)

def ofTomlItems : List Toml.Value → List Setting
  | [] => []
  | item :: rest => Setting.ofToml item :: ofTomlItems rest

def ofTomlEntries : List (String × Toml.Value) → List (String × Setting)
  | [] => []
  | (key, value) :: rest => (key, Setting.ofToml value) :: ofTomlEntries rest
end

mutual
def Setting.ofJson : Json → Setting
  | .null => .missing
  | .text value => .text value
  | .integer value => .integer value
  | .boolean _ => .other
  | .fraction _ _ => .other
  | .array items => .list (ofJsonItems items)
  | .object members => .group (ofJsonMembers members)

def ofJsonItems : List Json → List Setting
  | [] => []
  | item :: rest => Setting.ofJson item :: ofJsonItems rest

def ofJsonMembers : List (String × Json) → List (String × Setting)
  | [] => []
  | (name, value) :: rest => (name, Setting.ofJson value) :: ofJsonMembers rest
end

/-! ## Plain settings -/

namespace Setting

def text? : Setting → Option String
  | .text value => some value
  | _ => none

def optionalText? : Setting → Option (Option String)
  | .missing => some none
  | .text value => some (some value)
  | _ => none

def texts? : Setting → Option (List String)
  | .list items => items.mapM text?
  | _ => none

def naturalBelow? (limit : Nat) : Setting → Option Nat
  | .integer (.ofNat value) => if value < limit then some value else none
  | _ => none

def uint64? (setting : Setting) : Option Nat :=
  setting.naturalBelow? UInt64.size

def uint32? (setting : Setting) : Option UInt32 :=
  (setting.naturalBelow? UInt32.size).map UInt32.ofNat

end Setting

/-! ## Groups -/

inductive Group
  | named (entries : List (String × Setting))
  | listed (items : List Setting)

def Group.setting? (group : Group) (position : Nat) (name : String) :
    Option Setting :=
  match group with
  | .named entries => entries.lookup name
  | .listed items => items[position]?

def Group.field (group : Group) (position : Nat) (name : String)
    (decode : Setting → Option α) (default : α) : Option α :=
  match group.setting? position name with
  | none => some default
  | some setting => decode setting

def Setting.group? (surplus : Surplus) (fields : Nat) : Setting → Option Group
  | .group entries => some (.named entries)
  | .list items =>
      if surplus = .refused ∧ fields < items.length then none
      else some (.listed items)
  | _ => none

end SignalControl.Config
