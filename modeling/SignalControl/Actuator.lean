import SignalControl.Text.Quoted

namespace SignalControl

/-! An actuator decides what becomes of an input: it is left to the program
(flashing), or forced off, or forced on. The same three modes are written in
two alphabets, as labels on the inputs page and as digits in commands. -/

namespace Actuator

inductive Mode
  | flashing
  | off
  | on
deriving DecidableEq, Repr

inductive Token
  | label (mode : Mode)
  | value (mode : Mode)
deriving DecidableEq, Repr

namespace Token

def all : List Token :=
  [.label .flashing, .label .off, .label .on,
    .value .flashing, .value .off, .value .on]

def mode : Token → Mode
  | .label mode => mode
  | .value mode => mode

def toLabel (token : Token) : Token := .label token.mode

def toProtocol (token : Token) : Token := .value token.mode

def text : Token → String
  | .label .flashing => "-"
  | .label .off => "ВЫКЛ"
  | .label .on => "ВКЛ"
  | .value .flashing => "0"
  | .value .off => "1"
  | .value .on => "2"

def ofText? (text : String) : Option Token :=
  all.find? fun token => token.text == text

theorem mem_all (token : Token) : token ∈ all := by
  rcases token with (_ | _ | _) | (_ | _ | _) <;> decide

@[simp] theorem ofText?_text (token : Token) : ofText? token.text = some token := by
  rcases token with (_ | _ | _) | (_ | _ | _) <;> decide

theorem text_injective {left right : Token} (equal : left.text = right.text) :
    left = right := by
  have read := ofText?_text left
  rw [equal, ofText?_text] at read
  exact (Option.some.inj read).symm

theorem text_of_ofText? {text : String} {token : Token}
    (read : ofText? text = some token) : token.text = text := by
  unfold ofText? at read
  simpa using List.find?_some read

theorem ofText?_eq_some_iff {text : String} {token : Token} :
    ofText? text = some token ↔ text = token.text := by
  constructor
  · intro read
    exact (text_of_ofText? read).symm
  · intro equal
    rw [equal, ofText?_text]

end Token

def flashingMark : String := "ВФ"

def Mode.mark : Mode → String
  | .flashing => flashingMark
  | mode => (Token.label mode).text

theorem Mode.mark_injective {left right : Mode} (equal : left.mark = right.mark) :
    left = right := by
  revert equal
  cases left <;> cases right <;> decide

theorem Mode.separator_not_mem_mark (mode : Mode) : '=' ∉ mode.mark.toList := by
  cases mode <;> decide

def display (name : String) (token : Token) : String :=
  name ++ "=" ++ token.mode.mark

structure UnknownToken where
  text : String
deriving DecidableEq

def UnknownToken.message (error : UnknownToken) : String :=
  "unknown actuator token " ++ Text.quoted error.text

def Token.read (text : String) : Except UnknownToken Token :=
  match ofText? text with
  | some token => .ok token
  | none => .error ⟨text⟩

end Actuator

end SignalControl
