import SignalControl.Http.Exchange

namespace SignalControl

/-! A dialogue is a computation that talks to a device and keeps a record of it:
the rounds of calls that it made, with their answers, and the events that it
logged, both in order. -/

structure Run (State α : Type) where
  outcome : α
  rounds : List Round
  log : List LogEvent
  device : State

def Dialogue (State α : Type) : Type :=
  State → Run State α

namespace Dialogue

protected def pure (outcome : α) : Dialogue State α := fun device =>
  { outcome := outcome, rounds := [], log := [], device := device }

protected def bind (dialogue : Dialogue State α)
    (next : α → Dialogue State β) : Dialogue State β := fun device =>
  let first := dialogue device
  let second := next first.outcome first.device
  { outcome := second.outcome
    rounds := first.rounds ++ second.rounds
    log := first.log ++ second.log
    device := second.device }

instance : Monad (Dialogue State) where
  pure := Dialogue.pure
  bind := Dialogue.bind

@[simp] theorem pure_apply (outcome : α) (device : State) :
    (pure outcome : Dialogue State α) device =
      { outcome := outcome, rounds := [], log := [], device := device } := rfl

@[simp] theorem bind_apply (dialogue : Dialogue State α)
    (next : α → Dialogue State β) (device : State) :
    (dialogue >>= next) device =
      { outcome :=
          (next (dialogue device).outcome (dialogue device).device).outcome
        rounds := (dialogue device).rounds
          ++ (next (dialogue device).outcome (dialogue device).device).rounds
        log := (dialogue device).log
          ++ (next (dialogue device).outcome (dialogue device).device).log
        device :=
          (next (dialogue device).outcome (dialogue device).device).device } :=
  rfl

instance : LawfulMonad (Dialogue State) :=
  LawfulMonad.mk' (Dialogue State)
    (by
      intro outcome dialogue
      funext device
      simp [Functor.map, Dialogue.bind, Dialogue.pure])
    (by
      intro before after outcome next
      funext device
      simp)
    (by
      intro before middle after dialogue next final
      funext device
      simp)

@[simp] theorem map_apply (change : α → β) (dialogue : Dialogue State α)
    (device : State) :
    (change <$> dialogue) device =
      { outcome := change (dialogue device).outcome
        rounds := (dialogue device).rounds
        log := (dialogue device).log
        device := (dialogue device).device } := by
  rw [map_eq_pure_bind, bind_apply]
  simp

def logAll (events : List LogEvent) : Dialogue State Unit := fun device =>
  { outcome := (), rounds := [], log := events, device := device }

@[simp] theorem logAll_apply (events : List LogEvent) (device : State) :
    (logAll events : Dialogue State Unit) device =
      { outcome := (), rounds := [], log := events, device := device } := rfl

def logEvent (event : LogEvent) : Dialogue State Unit :=
  logAll [event]

def makeCalls (link : Link State) (calls : List Call) :
    Dialogue State (Completion calls.length) := fun device =>
  let answer := link.exchange device calls
  { outcome := answer.1
    rounds := [{ calls := calls, completion := answer.1 }]
    log := []
    device := answer.2 }

@[simp] theorem makeCalls_apply (link : Link State) (calls : List Call)
    (device : State) :
    makeCalls link calls device =
      { outcome := (link.exchange device calls).1
        rounds := [{ calls := calls, completion := (link.exchange device calls).1 }]
        log := []
        device := (link.exchange device calls).2 } := rfl

def makeCall (link : Link State) (call : Call) : Dialogue State Answer := do
  logEvent call.started
  let completion ← makeCalls link [call]
  logAll completion.answers[0].notice?.toList
  return completion.answers[0]

end Dialogue

end SignalControl
