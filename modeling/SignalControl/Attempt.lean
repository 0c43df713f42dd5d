import SignalControl.Verdict

namespace SignalControl

/-! Bookkeeping for one dispatch of a batch. Every command starts pending and
moves at most once, to the succeeded or to the faulted ones. -/

structure Attempt where
  pending : List String
  succeeded : List String := []
  faulted : List String := []
deriving DecidableEq

inductive Outcome
  | committed (succeeded : List String)
  | faulted (succeeded faulted : List String)
deriving DecidableEq

def Outcome.isCommitted : Outcome → Bool
  | .committed _ => true
  | .faulted _ _ => false

namespace Attempt

def start (names : List String) : Attempt :=
  { pending := names }

def swapRemove (names : List String) (position : Nat) : List String :=
  match names.getLast? with
  | some last => (names.set position last).dropLast
  | none => []

def settle? (attempt : Attempt) (name : String) (verdict : Verdict) :
    Option Attempt :=
  (attempt.pending.idxOf? name).map fun position =>
    let pending := swapRemove attempt.pending position
    if verdict.isAccepted then
      { attempt with pending := pending, succeeded := attempt.succeeded ++ [name] }
    else
      { attempt with pending := pending, faulted := attempt.faulted ++ [name] }

def settle (attempt : Attempt) (name : String) (verdict : Verdict) : Attempt :=
  (attempt.settle? name verdict).getD attempt

def settleAll (attempt : Attempt) (verdicts : List (String × Verdict)) : Attempt :=
  verdicts.foldl (fun current settled => current.settle settled.1 settled.2) attempt

/-- A command that is still pending when the attempt is closed has faulted. -/
def finish (attempt : Attempt) : Outcome :=
  let faulted := attempt.faulted ++ attempt.pending
  if faulted.isEmpty then .committed attempt.succeeded
  else .faulted attempt.succeeded faulted

end Attempt

end SignalControl
