namespace SignalControl

/-! JSON values, as results are reported in and configurations are given in.
Numbers are exact: an integer, or a decimal fraction with its count of decimal
places, which is never an integer even if its value is one. -/

inductive Json
  | null
  | boolean (value : Bool)
  | integer (value : Int)
  | fraction (digits : Int) (places : Nat)
  | text (value : String)
  | array (items : List Json)
  | object (members : List (String × Json))
deriving Inhabited

namespace Json

def text? : Json → Option String
  | .text value => some value
  | _ => none

def natural? : Json → Option Nat
  | .integer (.ofNat value) => some value
  | _ => none

def uint32? (value : Json) : Option UInt32 :=
  (value.natural?.filter fun number => number < UInt32.size).map UInt32.ofNat

def member? (members : List (String × Json)) (name : String) : Option Json :=
  members.lookup name

/-- The name of a choice without content: the name alone, or an object that
gives it a null content. -/
def choice? : Json → Option String
  | .text name => some name
  | .object [(name, .null)] => some name
  | _ => none

end Json

end SignalControl
