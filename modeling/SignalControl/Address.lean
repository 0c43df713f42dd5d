import SignalControl.Text.Search

namespace SignalControl.Address

/-! The address of a controller is a host, a host with a port, or a whole base
URL. Requests go to its base URL, which always has a scheme and never ends in a
slash; routes are appended to it as they are. -/

def schemeMark : String := "://"

def trimSlashes (address : List Char) : List Char :=
  (address.reverse.dropWhile fun character => character = '/').reverse

def hasScheme (address : String) : Bool :=
  Text.occursIn schemeMark.toList address.toList

/-- Whether there is a scheme is decided before the slashes are trimmed. -/
def baseUrl (address : String) : String :=
  let trimmed := String.ofList (trimSlashes address.toList)
  if hasScheme address then trimmed else "http" ++ schemeMark ++ trimmed

end SignalControl.Address
