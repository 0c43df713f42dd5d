import SignalControl.Verdict

namespace SignalControl.Http

/-! A failed exchange is reported as a chain of messages, the outermost first.
The device's certificate is to blame if any of them mentions one, in whatever
mix of ASCII cases. -/

def certificateWord : List Char := "certificate".toList

def mentionsCertificate (message : String) : Bool :=
  Text.occursIn certificateWord (Text.lowerAscii message.toList)

def isCertificateFailure (chain : List String) : Bool :=
  chain.any mentionsCertificate

/-- A device with a certificate that cannot be trusted is not a controller. Any
other failure makes it unreachable, for the outermost reason. -/
def failureOf (reason : String) (causes : List String) : ExchangeFailure :=
  if isCertificateFailure (reason :: causes) then .wrongControllerType
  else .unreachable reason

end SignalControl.Http
