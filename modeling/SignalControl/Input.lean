import SignalControl.Actuator
import SignalControl.NameTable

namespace SignalControl

/-! A controller input as last read from the inputs page, and the map of all of
them, keyed by name. -/

inductive InputState
  | idle
  | active
deriving DecidableEq, Repr

namespace InputState

def text : InputState → String
  | .idle => "0"
  | .active => "1"

def ofText? (text : String) : Option InputState :=
  if text = "0" then some .idle
  else if text = "1" then some .active
  else none

@[simp] theorem ofText?_text (state : InputState) :
    ofText? state.text = some state := by
  cases state <;> decide

theorem text_of_ofText? {text : String} {state : InputState}
    (read : ofText? text = some state) : state.text = text := by
  unfold ofText? at read
  split at read
  next equal => cases read; exact equal.symm
  next =>
    split at read
    next equal => cases read; exact equal.symm
    next => cases read

theorem ofText?_eq_some_iff {text : String} {state : InputState} :
    ofText? text = some state ↔ text = state.text := by
  constructor
  · intro read
    exact (text_of_ofText? read).symm
  · intro equal
    rw [equal, ofText?_text]

structure Unknown where
  text : String
deriving DecidableEq

def Unknown.message (error : Unknown) : String :=
  "unknown input state " ++ Text.quoted error.text

def read (text : String) : Except Unknown InputState :=
  match ofText? text with
  | some state => .ok state
  | none => .error ⟨text⟩

end InputState

/-- One row of the inputs page. Commands address an input by its `index`. -/
structure InputRecord where
  index : UInt32
  number : UInt32
  name : String
  state : InputState
  stateTime : String
  actuator : Actuator.Token
deriving DecidableEq

def InputRecord.mode (record : InputRecord) : Actuator.Mode :=
  record.actuator.mode

def InputRecord.isForcedOn (record : InputRecord) : Bool :=
  record.mode == .on

abbrev Inputs := NameTable InputRecord

end SignalControl
