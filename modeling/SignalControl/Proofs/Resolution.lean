import Mathlib.Logic.Function.Iterate
import SignalControl.Controller

namespace SignalControl

/-! The life of an envelope. It holds nothing until it is resolved for the first time,
and from then on what came of its request: an error alone, or the reply together with
what the attached parser made of it. -/

inductive Reading : Option PageParser → String → Option Page → Option EnvelopeError → Prop
  | unread {body : String} : Reading none body none none
  | page {parser : PageParser} {body : String} {page : Page}
      (parsed : parser body = .ok page) : Reading (some parser) body (some page) none
  | refused {parser : PageParser} {body : String} {cause : ParseError}
      (parsed : parser body = .error cause) :
      Reading (some parser) body none (some (.parse cause))

theorem Reading.error_of_unread {body : String} {processed : Option Page}
    {error : Option EnvelopeError} (reading : Reading none body processed error) :
    error = none := by
  cases reading with
  | unread => rfl

namespace Envelope

structure Untouched (envelope : Envelope) : Prop where
  unresolved : envelope.isResolved = false
  status : envelope.status = none
  raw : envelope.raw = none
  processed : envelope.processed = none
  error : envelope.error = none

inductive Settled (parser : Option PageParser) (envelope : Envelope) :
    ExchangeResult → Prop
  | failed {cause : ExchangeFailure} (resolved : envelope.isResolved = true)
      (status : envelope.status = none) (raw : envelope.raw = none)
      (processed : envelope.processed = none)
      (error : envelope.error = some (.exchange cause)) :
      Settled parser envelope (.error cause)
  | replied {reply : Reply} (resolved : envelope.isResolved = true)
      (status : envelope.status = some reply.status)
      (raw : envelope.raw = some reply.body)
      (reading : Reading parser reply.body envelope.processed envelope.error) :
      Settled parser envelope (.ok reply)

/-- The envelope holds the failure or the body that its verdict is passed on, and the
verdict is the one on the result of the exchange. -/
structure JudgedBy (envelope : Envelope) (result : ExchangeResult) : Prop where
  decided : (∃ cause, envelope.error = some (.exchange cause)) ∨
    envelope.error = none ∧ ∃ body, envelope.raw = some body
  verdict : envelope.verdict = Verdict.ofReply (result.map Reply.body)

/-! ## Resolving -/

/-- Completing an envelope neither renames it nor puts a result back. -/
theorem complete_keeps (envelope : Envelope) (result : ExchangeResult) :
    (envelope.complete result).label = envelope.label ∧
      (envelope.complete result).pending = envelope.pending := by
  unfold complete
  split
  next => exact ⟨rfl, rfl⟩
  next =>
    split
    next => exact ⟨rfl, rfl⟩
    next => split <;> exact ⟨rfl, rfl⟩

theorem label_resolve (envelope : Envelope) : envelope.resolve.label = envelope.label := by
  rw [resolve]
  split
  next => rfl
  next result _ => exact (complete_keeps _ result).1

theorem isResolved_resolve (envelope : Envelope) : envelope.resolve.isResolved = true := by
  rw [resolve]
  split
  next absent => rw [isResolved, absent]; rfl
  next result _ => rw [isResolved, (complete_keeps _ result).2]; rfl

theorem resolve_of_isResolved {envelope : Envelope}
    (resolved : envelope.isResolved = true) : envelope.resolve = envelope := by
  rw [resolve, Option.isNone_iff_eq_none.mp resolved]

theorem iterate_resolve (envelope : Envelope) (count : Nat) :
    resolve^[count + 1] envelope = envelope.resolve := by
  rw [Function.iterate_succ_apply]
  exact Function.iterate_fixed (resolve_of_isResolved envelope.isResolved_resolve) count

/-! ## Requests -/

def request (label : String) (parser : Option PageParser) (result : ExchangeResult) :
    Envelope :=
  match parser with
  | none => .new label result
  | some parser => (Envelope.new label result).withParser parser

section

variable (label : String) (parser : Option PageParser) (result : ExchangeResult)

theorem request_eq :
    request label parser result =
      { label := label, pending := some result, parser := parser } := by
  cases parser with
  | none => rfl
  | some parser => rfl

theorem untouched_request : (request label parser result).Untouched := by
  rw [request_eq]
  exact ⟨rfl, rfl, rfl, rfl, rfl⟩

theorem resolve_request_of_failed (cause : ExchangeFailure) :
    (request label parser (.error cause)).resolve =
      { label := label
        pending := none
        parser := parser
        error := some (.exchange cause) } := by
  rw [request_eq]
  rfl

theorem resolve_request_of_unread (reply : Reply) :
    (request label none (.ok reply)).resolve =
      { label := label
        pending := none
        status := some reply.status
        raw := some reply.body } := rfl

section

variable {read : PageParser} {reply : Reply}

theorem resolve_request_of_parsed {page : Page} (parsed : read reply.body = .ok page) :
    (request label (some read) (.ok reply)).resolve =
      { label := label
        pending := none
        parser := read
        status := some reply.status
        raw := some reply.body
        processed := some page } := by
  simp [request, new, withParser, resolve, complete, parsed]

theorem resolve_request_of_refused {cause : ParseError}
    (parsed : read reply.body = .error cause) :
    (request label (some read) (.ok reply)).resolve =
      { label := label
        pending := none
        parser := read
        status := some reply.status
        raw := some reply.body
        error := some (.parse cause) } := by
  simp [request, new, withParser, resolve, complete, parsed]

end

theorem settled_request : Settled parser (request label parser result).resolve result := by
  cases result with
  | error cause =>
      rw [resolve_request_of_failed]
      exact .failed rfl rfl rfl rfl rfl
  | ok reply =>
      cases parser with
      | none =>
          rw [resolve_request_of_unread]
          exact .replied rfl rfl rfl .unread
      | some read =>
          cases parsed : read reply.body with
          | ok page =>
              rw [resolve_request_of_parsed label parsed]
              exact .replied rfl rfl rfl (.page parsed)
          | error cause =>
              rw [resolve_request_of_refused label parsed]
              exact .replied rfl rfl rfl (.refused parsed)

end

end Envelope

/-! ## Pages and commands -/

/-- An answer is a complete reply with status 200 or a failure. -/
theorem Answer.reply_or_failure (answer : Answer) :
    (∃ body, answer = .response Http.ok (.ok body) ∧
      answer.result = .ok { status := Http.ok, body := body }) ∨
    ∃ cause, answer.result = .error cause ∧
      ∀ body, answer ≠ .response Http.ok (.ok body) := by
  cases answer with
  | unsent cause => exact .inr ⟨cause, rfl, by simp⟩
  | unanswered cause => exact .inr ⟨cause, rfl, by simp⟩
  | response status body =>
      by_cases complete : status = Http.ok
      · subst complete
        cases body with
        | ok body => exact .inl ⟨body, rfl, rfl⟩
        | error cause => exact .inr ⟨cause, rfl, by simp⟩
      · exact .inr ⟨.wrongControllerType, if_neg complete, by simp [complete]⟩

namespace Controller

theorem pageEnvelope_eq (controller : Controller) (page : PageKind) (answer : Answer) :
    controller.pageEnvelope page answer =
      (Envelope.request page.label (some (controller.parsers.forKind page))
        answer.result).resolve := rfl

theorem commandEnvelope_eq (command : Command) (answer : Answer) :
    commandEnvelope command answer =
      (Envelope.request command.name none answer.result).resolve := rfl

end Controller

namespace Envelope

/-! ## Verdicts -/

/-- Without a parser there is no error but that of the exchange, so that the verdict
never falls back to a refusal for want of a body. -/
theorem Settled.judgedBy {envelope : Envelope} {result : ExchangeResult}
    (settled : Settled none envelope result) : envelope.JudgedBy result := by
  cases settled with
  | failed _ _ _ _ error =>
      refine ⟨.inl ⟨_, error⟩, ?_⟩
      rw [verdict, error]
      rfl
  | replied _ _ raw reading =>
      have unfailed : envelope.error = none := reading.error_of_unread
      refine ⟨.inr ⟨unfailed, _, raw⟩, ?_⟩
      rw [verdict, unfailed, raw]
      rfl

/-- An envelope holds nothing before it is resolved, and however often it is resolved
then, it holds what came of its request: the error of a failed exchange and nothing
else, or the status and the body of the reply together with either the page or the error
of the parser that is attached. Where none is attached, as to a command, the verdict is
the one on the result of the exchange. -/
theorem request_lifecycle (label : String) (parser : Option PageParser)
    (result : ExchangeResult) :
    (request label parser result).Untouched ∧
      (∃ resolved, resolved.label = label ∧ Settled parser resolved result ∧
        ∀ count, resolve^[count + 1] (request label parser result) = resolved) ∧
      (∀ count, (resolve^[count + 1] (Envelope.new label result)).JudgedBy result) ∧
      ∀ command answer,
        (Controller.commandEnvelope command answer).JudgedBy answer.result := by
  refine ⟨untouched_request label parser result,
    ⟨_, ?_, settled_request label parser result, iterate_resolve _⟩, ?_, ?_⟩
  · rw [label_resolve, request_eq]
  · intro count
    rw [iterate_resolve]
    exact (settled_request label none result).judgedBy
  · intro command answer
    rw [Controller.commandEnvelope_eq]
    exact (settled_request command.name none answer.result).judgedBy

end Envelope

end SignalControl
