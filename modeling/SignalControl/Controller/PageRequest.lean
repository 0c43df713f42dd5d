import SignalControl.Controller

namespace SignalControl.Controller

/-! Requesting pages. All requests of a list are made together, each yields the
record at its own place, and a failed page is reported and recorded like any
other. -/

open Dialogue

def fetchPages (controller : Controller) (link : Link State)
    (pages : List PageKind) : Dialogue State (List Envelope) := do
  let calls := pages.map controller.pageCall
  logAll (calls.map Call.started)
  let completion ← makeCalls link calls
  logAll ((completion.arrived pages).filterMap fun pair => pair.2.notice?)
  return (completion.answered pages).map fun pair =>
    controller.pageEnvelope pair.1 pair.2

def failureEvent? (controller : Controller) (envelope : Envelope) :
    Option LogEvent :=
  envelope.error.map fun error =>
    .pageFailed controller.baseUrl envelope.label error

def requestPages (controller : Controller) (link : Link State)
    (pages : List PageKind) :
    Dialogue State (Controller × List ResultRecord) := do
  logEvent (.dispatchingPages pages.length controller.baseUrl)
  let envelopes ← controller.fetchPages link pages
  logAll (envelopes.filterMap controller.failureEvent?)
  let records := envelopes.map Envelope.toRecord
  return (controller.record records, records)

def statusPages (extras : List PageKind) : List PageKind :=
  (PageKind.main :: extras).eraseDups

def pollStatus (controller : Controller) (link : Link State)
    (extras : List PageKind) : Dialogue State (Controller × List ResultRecord) :=
  controller.requestPages link (statusPages extras)

def pollInputs (controller : Controller) (link : Link State) :
    Dialogue State (Controller × List ResultRecord) :=
  controller.requestPages link [.inputs]

end SignalControl.Controller
