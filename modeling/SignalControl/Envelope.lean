import SignalControl.Page.Record
import SignalControl.Verdict

namespace SignalControl

/-! An envelope is one request to the device and, once it is resolved, what came
of it. It is resolved at most once: a failed exchange leaves only an error, and
a reply leaves its status and text and, where a parser is attached, either the
page or the parser's error. -/

structure Reply where
  status : Nat
  body : String
deriving DecidableEq

abbrev ExchangeResult := Except ExchangeFailure Reply

inductive EnvelopeError
  | exchange (cause : ExchangeFailure)
  | parse (cause : ParseError)
deriving DecidableEq

def EnvelopeError.message : EnvelopeError → String
  | .exchange cause => cause.message
  | .parse cause => cause.message

def protocol : String := "http"

structure Envelope where
  label : String
  pending : Option ExchangeResult
  parser : Option PageParser := none
  status : Option Nat := none
  raw : Option String := none
  processed : Option Page := none
  error : Option EnvelopeError := none

namespace Envelope

def new (label : String) (operation : ExchangeResult) : Envelope :=
  { label := label, pending := some operation }

def withParser (envelope : Envelope) (parser : PageParser) : Envelope :=
  { envelope with parser := some parser }

def isResolved (envelope : Envelope) : Bool :=
  envelope.pending.isNone

def complete (envelope : Envelope) (result : ExchangeResult) : Envelope :=
  match result with
  | .error cause => { envelope with error := some (.exchange cause) }
  | .ok reply =>
      let replied :=
        { envelope with status := some reply.status, raw := some reply.body }
      match envelope.parser with
      | none => replied
      | some parser =>
          match parser reply.body with
          | .ok page => { replied with processed := some page }
          | .error cause => { replied with error := some (.parse cause) }

def resolve (envelope : Envelope) : Envelope :=
  match envelope.pending with
  | none => envelope
  | some result => { envelope with pending := none }.complete result

def inputs? (envelope : Envelope) : Option Inputs :=
  envelope.processed.bind Page.inputs?

def verdict (envelope : Envelope) : Verdict :=
  match envelope.error, envelope.raw with
  | some (.exchange cause), _ => .failed cause
  | none, some body => .ofBody body
  | _, _ => .refused none

end Envelope

/-! ## Results -/

structure ResultRecord where
  label : String
  status : Option Nat := none
  data : Option Json := none
  error : Option String := none

def ResultRecord.isOk (record : ResultRecord) : Bool :=
  record.error.isNone

def ResultRecord.toJson (record : ResultRecord) : Json :=
  .object (
    [("label", .text record.label), ("protocol", .text protocol)]
      ++ (record.status.map fun status => ("status", .integer status)).toList
      ++ (record.data.map fun data => ("data", data)).toList
      ++ (record.error.map fun error => ("error", .text error)).toList)

def Envelope.toRecord (envelope : Envelope) : ResultRecord :=
  { label := envelope.label
    status := envelope.status
    data := envelope.processed.map Page.toJson
    error := envelope.error.map EnvelopeError.message }

end SignalControl
