import SignalControl.Config.Setting
import SignalControl.Controller
import SignalControl.Http.Permits
import SignalControl.Level

namespace SignalControl.Config

/-! The configuration of a client. It has six groups of settings; every setting
is read on its own, and what is not given keeps its default. -/

structure General where
  logLevel : Option String := none
deriving DecidableEq

structure Device where
  host : Option String := none
  hostId : Option String := none
deriving DecidableEq

structure Inputs where
  all : List String := []
  stages : List String := []
  manual : String := ""
  phasePrefix : String := ""
  fieldPrefix : String := ""
deriving DecidableEq

structure Cookie where
  name : String := ""
  value : String := ""
deriving DecidableEq

structure Transport where
  maxInFlight : Nat := 6
  getConnectTimeout : Nat := 400
  postConnectTimeout : Nat := 1000
  requestDeadline : Nat := 30000
  batchAttempts : UInt32 := 1
deriving DecidableEq

structure Client where
  general : General := {}
  device : Device := {}
  inputs : Inputs := {}
  credentials : Cookie := {}
  transport : Transport := {}
  routes : Routes := {}
deriving DecidableEq

/-! ## Reading -/

def General.ofSetting? (surplus : Surplus) (setting : Setting) : Option General := do
  let group ← setting.group? surplus 1
  return { logLevel := ← group.field 0 "log_level" Setting.optionalText? none }

def Device.ofSetting? (surplus : Surplus) (setting : Setting) : Option Device := do
  let group ← setting.group? surplus 2
  return {
    host := ← group.field 0 "host" Setting.optionalText? none
    hostId := ← group.field 1 "host_id" Setting.optionalText? none }

def Inputs.ofSetting? (surplus : Surplus) (setting : Setting) : Option Inputs := do
  let group ← setting.group? surplus 5
  return {
    all := ← group.field 0 "all" Setting.texts? []
    stages := ← group.field 1 "stages" Setting.texts? []
    manual := ← group.field 2 "manual" Setting.text? ""
    phasePrefix := ← group.field 3 "phase_prefix" Setting.text? ""
    fieldPrefix := ← group.field 4 "field_prefix" Setting.text? "" }

def Cookie.ofSetting? (surplus : Surplus) (setting : Setting) : Option Cookie := do
  let group ← setting.group? surplus 2
  return {
    name := ← group.field 0 "cookie_name" Setting.text? ""
    value := ← group.field 1 "cookie_value" Setting.text? "" }

def Transport.ofSetting? (surplus : Surplus) (setting : Setting) :
    Option Transport := do
  let group ← setting.group? surplus 5
  let defaults : Transport := {}
  return {
    maxInFlight :=
      ← group.field 0 "max_in_flight" Setting.uint64? defaults.maxInFlight
    getConnectTimeout :=
      ← group.field 1 "get_connect_timeout_ms" Setting.uint64?
        defaults.getConnectTimeout
    postConnectTimeout :=
      ← group.field 2 "post_connect_timeout_ms" Setting.uint64?
        defaults.postConnectTimeout
    requestDeadline :=
      ← group.field 3 "request_deadline_ms" Setting.uint64? defaults.requestDeadline
    batchAttempts :=
      ← group.field 4 "batch_attempts" Setting.uint32? defaults.batchAttempts }

def routesOfSetting? (surplus : Surplus) (setting : Setting) : Option Routes := do
  let group ← setting.group? surplus 3
  let defaults : Routes := {}
  return {
    mainPage := ← group.field 0 "main_page" Setting.text? defaults.mainPage
    inputsPage := ← group.field 1 "inputs_page" Setting.text? defaults.inputsPage
    setInputs := ← group.field 2 "set_inputs" Setting.text? defaults.setInputs }

def Client.ofSetting? (surplus : Surplus) (setting : Setting) : Option Client := do
  let group ← setting.group? surplus 6
  return {
    general := ← group.field 0 "general" (General.ofSetting? surplus) {}
    device := ← group.field 1 "device" (Device.ofSetting? surplus) {}
    inputs := ← group.field 2 "inputs" (Inputs.ofSetting? surplus) {}
    credentials := ← group.field 3 "credentials" (Cookie.ofSetting? surplus) {}
    transport := ← group.field 4 "transport" (Transport.ofSetting? surplus) {}
    routes := ← group.field 5 "routes" (routesOfSetting? surplus) {} }

def Client.ofJson? (value : Json) : Option Client :=
  Client.ofSetting? .refused (.ofJson value)

def routesOfJson? (value : Json) : Option Routes :=
  routesOfSetting? .refused (.ofJson value)

/-! ## Building -/

inductive SetupError
  | missingHost
  | profile (error : ProfileError)
  | permits (error : Http.TooManyPermits)
deriving DecidableEq

def SetupError.message : SetupError → String
  | .missingHost => "no controller host configured"
  | .profile error => error.message
  | .permits error =>
      "cannot count " ++ toString error.requested ++ " permits"

namespace Client

def profileDescription (client : Client) : ProfileDescription :=
  { inputs := client.inputs.all
    stages := client.inputs.stages
    manual := client.inputs.manual
    phasePrefix := client.inputs.phasePrefix
    fieldPrefix := client.inputs.fieldPrefix
    credentials :=
      { name := client.credentials.name, value := client.credentials.value } }

def profile (client : Client) : Except ProfileError Profile :=
  Profile.ofDescription client.profileDescription

def retryPolicy (client : Client) : RetryPolicy :=
  .ofCount client.transport.batchAttempts

def permits (client : Client) : Except Http.TooManyPermits Http.PermitPool :=
  Http.PermitPool.ofCount client.transport.maxInFlight

def logLevel (client : Client) : Level :=
  .ofSetting client.general.logLevel

/-- A missing host is reported before anything else, and the profile before the
permits. -/
def controller (client : Client) (parsers : PageParsers) :
    Except SetupError Controller :=
  match client.device.host with
  | none => .error .missingHost
  | some host =>
      match client.profile with
      | .error error => .error (.profile error)
      | .ok profile =>
          match client.permits with
          | .error error => .error (.permits error)
          | .ok _ => .ok
              { address := host
                hostId := client.device.hostId
                profile := profile
                parsers := parsers
                routes := client.routes
                retry := client.retryPolicy }

/-! ## Writing -/

def texts (values : List String) : Json :=
  .array (values.map .text)

def toJson (client : Client) : Json :=
  .object [
    ("general", .object [
      ("log_level", Controller.optionalText client.general.logLevel)]),
    ("device", .object [
      ("host", Controller.optionalText client.device.host),
      ("host_id", Controller.optionalText client.device.hostId)]),
    ("inputs", .object [
      ("all", texts client.inputs.all),
      ("stages", texts client.inputs.stages),
      ("manual", .text client.inputs.manual),
      ("phase_prefix", .text client.inputs.phasePrefix),
      ("field_prefix", .text client.inputs.fieldPrefix)]),
    ("credentials", .object [
      ("cookie_name", .text client.credentials.name),
      ("cookie_value", .text client.credentials.value)]),
    ("transport", .object [
      ("max_in_flight", .integer client.transport.maxInFlight),
      ("get_connect_timeout_ms", .integer client.transport.getConnectTimeout),
      ("post_connect_timeout_ms", .integer client.transport.postConnectTimeout),
      ("request_deadline_ms", .integer client.transport.requestDeadline),
      ("batch_attempts", .integer client.transport.batchAttempts.toNat)]),
    ("routes", routesToJson client.routes)]
where
  routesToJson (routes : Routes) : Json :=
    .object [
      ("main_page", .text routes.mainPage),
      ("inputs_page", .text routes.inputsPage),
      ("set_inputs", .text routes.setInputs)]

end Client

end SignalControl.Config
