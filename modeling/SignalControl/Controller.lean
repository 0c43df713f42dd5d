import SignalControl.Address
import SignalControl.Controller.Dialogue
import SignalControl.Retry

namespace SignalControl

/-! A controller is the client's view of one device: how to reach it, what its
inputs mean, and the results that have gathered since they were last taken. -/

structure Controller where
  address : String
  hostId : Option String := none
  profile : Profile
  parsers : PageParsers
  routes : Routes := {}
  retry : RetryPolicy := .single
  results : List ResultRecord := []

namespace Controller

def baseUrl (controller : Controller) : String :=
  Address.baseUrl controller.address

def url (controller : Controller) (route : String) : String :=
  controller.baseUrl ++ route

def pageCall (controller : Controller) (page : PageKind) : Call :=
  .fetch (controller.url (controller.routes.page page))

def commandCall (controller : Controller) (command : Command) : Call :=
  .post (controller.url controller.routes.setInputs)
    (command.payload controller.profile.fieldPrefix).fields
    controller.profile.credentials.cookie?

def pageEnvelope (controller : Controller) (page : PageKind)
    (answer : Answer) : Envelope :=
  ((Envelope.new page.label answer.result).withParser
    (controller.parsers.forKind page)).resolve

def commandEnvelope (command : Command) (answer : Answer) : Envelope :=
  (Envelope.new command.name answer.result).resolve

def record (controller : Controller) (records : List ResultRecord) : Controller :=
  { controller with results := controller.results ++ records }

/-! ## The aggregate view -/

structure Response where
  hostId : Option String
  address : String
  results : List ResultRecord

def response (controller : Controller) : Response :=
  { hostId := controller.hostId
    address := controller.address
    results := controller.results }

def optionalText : Option String → Json
  | none => .null
  | some value => .text value

def Response.toJson (response : Response) : Json :=
  .object [
    ("host_id", optionalText response.hostId),
    ("address", .text response.address),
    ("protocol", .text protocol),
    ("results", .array (response.results.map ResultRecord.toJson))]

end Controller

end SignalControl
