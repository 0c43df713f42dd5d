import SignalControl.Envelope
import SignalControl.Log

namespace SignalControl

/-! Exchanges with a device. The controller makes calls; calls made together
form a round, and the device answers each call of a round, in an order of its
own. Nothing else is known of a device: its state may be anything, so every
answer may depend on all that went before. -/

inductive Call
  | fetch (url : String)
  | post (url : String) (fields : List (String × String)) (cookie : Option String)
deriving DecidableEq

def Call.started : Call → LogEvent
  | .fetch url => .fetching url
  | .post url fields _ => .posting url fields

/-- What became of one call: it could not be written as a request or found no
connection to send it over, or it was sent without an answer, or the device
answered with a status and with a body that may have failed to arrive whole. -/
inductive Answer
  | unsent (cause : ExchangeFailure)
  | unanswered (cause : ExchangeFailure)
  | response (status : Nat) (body : Except ExchangeFailure String)

namespace Answer

def isUnsent : Answer → Bool
  | .unsent _ => true
  | _ => false

def result : Answer → ExchangeResult
  | .unsent cause => .error cause
  | .unanswered cause => .error cause
  | .response status body =>
      if status = Http.ok then
        match body with
        | .ok body => .ok { status := status, body := body }
        | .error cause => .error cause
      -- With any other status the device does not speak the protocol.
      else .error .wrongControllerType

def notice? : Answer → Option LogEvent
  | .response status _ =>
      if status = Http.ok then none else some (.unexpectedStatus status)
  | _ => none

end Answer

/-- The answers to the calls of a round, in the order of the calls, and the
order in which they came in. -/
structure Completion (count : Nat) where
  answers : Vector Answer count
  order : List (Fin count)
  complete : order.Perm (List.finRange count)

namespace Completion

def inOrder (answers : Vector Answer count) : Completion count where
  answers := answers
  order := List.finRange count
  complete := List.Perm.refl _

def answered (completion : Completion count) (items : List α) :
    List (α × Answer) :=
  items.zip completion.answers.toList

def arrived (completion : Completion count) (items : List α) :
    List (α × Answer) :=
  completion.order.filterMap fun position =>
    (completion.answered items)[position.val]?

/-- A call that cannot be sent is settled at once, before any answer comes in. -/
def settled (completion : Completion count) (items : List α) :
    List (α × Answer) :=
  ((completion.answered items).filter fun pair => pair.2.isUnsent)
    ++ (completion.arrived items).filter fun pair => !pair.2.isUnsent

end Completion

structure Link (State : Type) where
  exchange : State → (calls : List Call) → Completion calls.length × State

structure Round where
  calls : List Call
  completion : Completion calls.length

end SignalControl
