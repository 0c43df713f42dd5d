import SignalControl.Text.Search

namespace SignalControl

/-! The device answers a command with a page that assigns its alert text. A
command is accepted only if that page carries the empty alert. -/

inductive ExchangeFailure
  | timeout
  | wrongControllerType
  | unreachable (reason : String)
deriving DecidableEq

def ExchangeFailure.message : ExchangeFailure → String
  | .timeout => "connection timed out"
  | .wrongControllerType => "bad controller type"
  | .unreachable reason => "controller unreachable: " ++ reason

inductive Verdict
  | accepted
  | refused (alert : Option String)
  | failed (cause : ExchangeFailure)
deriving DecidableEq

namespace Verdict

def alertOpening : String := "alert_msg = \x22"

def emptyAlert : String := "alert_msg = \x22\x22;"

def alert? (body : String) : Option String := do
  let opened ← Text.after? alertOpening.toList body.toList
  let (alert, _) ← Text.splitAtFirst? '\x22' opened
  if alert.isEmpty then none else some (String.ofList alert)

def ofBody (body : String) : Verdict :=
  if Text.occursIn emptyAlert.toList body.toList then .accepted
  else .refused (alert? body)

def ofReply : Except ExchangeFailure String → Verdict
  | .ok body => ofBody body
  | .error cause => .failed cause

def isAccepted (verdict : Verdict) : Bool :=
  verdict == .accepted

end Verdict

end SignalControl
