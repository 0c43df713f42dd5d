import SignalControl.Http.Certificate
import SignalControl.Http.Exchange
import SignalControl.Http.Url

namespace SignalControl.Http

/-! A device that follows a script, for trying out a controller without a
network. It answers one request at a time, in the order of the calls, and notes
every request that reaches it. -/

structure Request where
  method : String
  target : String
  body : String
  cookie : Option String
  contentType : Option String
deriving DecidableEq

namespace Request

def ofCall (url : Url) : Call → Request
  | .fetch _ =>
      { method := "GET"
        target := url.target
        body := ""
        cookie := none
        contentType := none }
  | .post _ fields cookie =>
      { method := "POST"
        target := url.target
        body := formEncode fields
        cookie := cookie
        contentType := some formContentType }

def subject (request : Request) : String :=
  request.method ++ " " ++ request.target ++ "\n" ++ request.body

end Request

/-! ## Writing calls as requests -/

def callUrl : Call → String
  | .fetch url => url
  | .post url _ _ => url

def callCookie : Call → Option String
  | .fetch _ => none
  | .post _ _ cookie => cookie

def isHeaderCharacter (character : Char) : Bool :=
  character == '\t' || (0x20 ≤ character.toNat && character.toNat ≠ 0x7F)

def builderError : String := "builder error"

def concerning (reason : String) (url : Url) : String :=
  reason ++ " for url (" ++ url.text ++ ")"

def urlLimit : Nat := 65534

def isUnsendable (character : Char) : Bool :=
  ['\x22', '\x60', '\x7b', '\x7d'].contains character

def isSendable (url : Url) : Bool :=
  (url.isHttp || url.isHttps)
    && !(url.host?.any fun host => host.text.any isUnsendable)
    && url.text.utf8ByteSize ≤ urlLimit

/-- A call becomes a request if its URL can be read and has a host, its cookie
can be a header, and a request can ask for the URL; the first that fails decides
the reason. -/
def request? (call : Call) : Except String (Url × Request) :=
  match Url.read? (callUrl call) with
  | none => .error builderError
  | some given =>
      let url := given.withoutUser
      if url.host?.isNone then .error (concerning builderError given)
      else if (callCookie call).any fun cookie =>
          !cookie.toList.all isHeaderCharacter then .error builderError
      else if !isSendable url then .error (concerning builderError url)
      else .ok (url, .ofCall url call)

/-! ## Scripts -/

inductive Ending
  | complete
  | truncated
  | stalled
  | dropped
  | silent
deriving DecidableEq

structure ScriptedReply where
  status : Nat := ok
  body : List UInt8 := []
  ending : Ending := .complete

structure Rule where
  pattern : String
  remaining : Option Nat
  reply : ScriptedReply

def Rule.applies (rule : Rule) (request : Request) : Bool :=
  rule.remaining ≠ some 0
    && Text.occursIn rule.pattern.toList request.subject.toList

def Rule.used (rule : Rule) : Rule :=
  { rule with remaining := rule.remaining.map fun times => times - 1 }

def defaultReply : ScriptedReply := { status := 404 }

def selectReply (request : Request) : List Rule → ScriptedReply × List Rule
  | [] => (defaultReply, [])
  | rule :: rest =>
      if rule.applies request then (rule.reply, rule.used :: rest)
      else
        let (reply, others) := selectReply request rest
        (reply, rule :: others)

def sendingFailure (url : Url) (causes : List String) : ExchangeFailure :=
  failureOf (concerning "error sending request" url) causes

def decodingFailure : ExchangeFailure :=
  failureOf "error decoding response body" []

def ScriptedReply.received (reply : ScriptedReply) : Except ExchangeFailure String :=
  match reply.ending with
  | .truncated => .error decodingFailure
  | .stalled => .error .timeout
  | _ => .ok (Text.Utf8.decodeLossy reply.body)

def ScriptedReply.answer (reply : ScriptedReply) (url : Url) : Answer :=
  if reply.ending = .silent then .unanswered .timeout
  else if reply.ending = .dropped ∨ !isFinal reply.status then
    .unanswered (sendingFailure url [])
  else .response reply.status reply.received

/-! ## The device -/

inductive Presence
  | plain
  | absent
  | encrypted
deriving DecidableEq

def untrustedCertificate : String :=
  "invalid peer certificate: UnknownIssuer"

structure ScriptedDevice where
  address : String
  presence : Presence
  rules : List Rule
  received : List Request := []

namespace ScriptedDevice

def isReached (device : ScriptedDevice) (url : Url) : Bool :=
  url.address == device.address && device.presence != .absent

/-- What becomes of a request to a host that cannot be reached: for an address
this shows at once, for a name only after it has been looked up. -/
def unreachedAnswer (url : Url) : Answer :=
  if url.host?.any Host.isAddress then .unsent (sendingFailure url [])
  else .unanswered (sendingFailure url [])

def answer (device : ScriptedDevice) (call : Call) : Answer × ScriptedDevice :=
  match request? call with
  | .error reason => (.unsent (failureOf reason []), device)
  | .ok (url, request) =>
      if !device.isReached url then (unreachedAnswer url, device)
      else
        match device.presence, url.isHttps with
        | .encrypted, true =>
            (.unanswered (sendingFailure url [untrustedCertificate]), device)
        | .plain, false =>
            let (reply, rules) := selectReply request device.rules
            (reply.answer url,
              { device with
                rules := rules
                received := device.received ++ [request] })
        | _, _ => (.unanswered (sendingFailure url []), device)

def answerAll (device : ScriptedDevice) :
    List Call → List Answer × ScriptedDevice
  | [] => ([], device)
  | call :: rest =>
      let (first, next) := device.answer call
      let (others, last) := next.answerAll rest
      (first :: others, last)

theorem answerAll_length (device : ScriptedDevice) (calls : List Call) :
    (device.answerAll calls).1.length = calls.length := by
  induction calls generalizing device with
  | nil => rfl
  | cons call rest induction =>
      simp only [answerAll, List.length_cons, induction]

def completion (device : ScriptedDevice) (calls : List Call) :
    Completion calls.length :=
  .inOrder ⟨(device.answerAll calls).1.toArray, by simp [answerAll_length]⟩

def link : Link ScriptedDevice where
  exchange device calls :=
    (device.completion calls, (device.answerAll calls).2)

end ScriptedDevice

end SignalControl.Http
