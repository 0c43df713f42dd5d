import SignalControl.Text.Decimal
import SignalControl.Text.Search

namespace SignalControl

/-! Log levels, by name in any mix of ASCII cases or by number, where 1 is the
gravest. -/

inductive Level
  | trace
  | debug
  | info
  | warn
  | error
deriving DecidableEq, Repr

namespace Level

def all : List Level := [.trace, .debug, .info, .warn, .error]

def name : Level → String
  | .trace => "TRACE"
  | .debug => "DEBUG"
  | .info => "INFO"
  | .warn => "WARN"
  | .error => "ERROR"

def ofNumber? : Nat → Option Level
  | 1 => some .error
  | 2 => some .warn
  | 3 => some .info
  | 4 => some .debug
  | 5 => some .trace
  | _ => none

def ofName? (text : String) : Option Level :=
  all.find? fun level =>
    Text.lowerAscii level.name.toList == Text.lowerAscii text.toList

def ofText? (text : String) : Option Level :=
  ((Text.signedNumeral? text.toList).bind ofNumber?).or (ofName? text)

def ofSetting (setting : Option String) : Level :=
  (setting.bind ofText?).getD .info

example : ofSetting (some "wArN") = .warn := by decide
example : ofSetting (some "+05") = .trace := by decide
example : ofSetting (some "6") = .info := by decide

end Level

end SignalControl
