import Telemetry.Options.Engines
import Telemetry.Text.Blank
import Telemetry.Transport.Network

/-!
# Checked options

Options are checked in a fixed order, and the first fault is the error. From checked options come
the settings of a reporter and its transport.
-/

namespace Telemetry

/-- Why options cannot be used. -/
inductive OptionsError where
  | url (reason : String)
  | config (reason : String)
  | file (reason : String)
  /-- The file does not have the form of a file of options. -/
  | parse (reason : String)
  | arguments (why : ArgumentError)
  | transport (why : TransportError)
  deriving DecidableEq, Repr

def OptionsError.message : OptionsError → String
  | url reason => "Invalid URL: " ++ reason
  | config reason => "Invalid configuration: " ++ reason
  | file reason => "File error: " ++ reason
  | parse reason => "Parse error: " ++ reason
  | arguments why => why.message
  | transport why => "Transport error: " ++ why.message

namespace Options

/-- A host, which is not empty, and a port. -/
def isHostAndPort (address : String) : Bool :=
  match Text.cutLast ':' address with
  | some (host, port) => !host.isEmpty && (Text.readNat? 65535 port).isSome
  | none => false

def serverFault (e : Engines) (o : Options) : Option OptionsError :=
  match o.protocol with
  | .http =>
    match e.scheme o.url with
    | .error why => some (.url s!"Invalid server URL '{o.url}': {why}")
    | .ok scheme =>
      if scheme ∉ ["http", "https"] then
        some (.url s!"Server URL '{o.url}' must use http or https")
      else if Text.blank o.database then some (.config "Database name must not be empty")
      else none
  | .udp =>
    if isHostAndPort o.udpAddress then none
    else some (.config s!"UDP address '{o.udpAddress}' must be host:port")

def amountFault (o : Options) : Option OptionsError :=
  if o.periodSeconds = 0 then some (.config "Report period must be greater than 0")
  else if o.queueCapacity = 0 then some (.config "Queue capacity must be greater than 0")
  else if o.connectTimeoutSeconds = 0 ∨ o.requestTimeoutSeconds = 0 then
    some (.config "Timeouts must be greater than 0")
  else none

/-- The key and the value of a tag, trimmed, if neither is empty. -/
def tagOf? (tag : String) : Option (String × String) :=
  ((Text.cutFirst '=' tag).map fun (k, v) => (Text.trim k, Text.trim v)).filter fun (k, v) =>
    !k.isEmpty && !v.isEmpty

/-- The tags by their keys, the last one for a key winning. -/
def readTags (tags : List String) : Except OptionsError (Dict String) := do
  let pairs ← tags.mapM fun tag =>
    match tagOf? tag with
    | some pair => Except.ok pair
    | none => .error (.config s!"Tag '{tag}' must be key=value")
  pure (.ofList pairs)

def scheme (o : Options) : Except OptionsError NameScheme :=
  match NameScheme.parse o.nameScheme with
  | .ok s => .ok s
  | .error e => .error (.config e.message)

def metricFilter (e : Engines) (o : Options) : Except OptionsError MetricFilter :=
  match o.filter with
  | none => .ok .all
  | some source =>
    match MetricFilter.ofPattern e.pattern source with
    | .ok f => .ok f
    | .error why => .error (.config s!"Invalid filter '{source}': {why}")

/-- Checks the options. -/
def validate (e : Engines) (o : Options) : Except OptionsError Unit := do
  match (o.serverFault e).or o.amountFault with
  | some fault => throw fault
  | none =>
    let _ ← readTags o.tags
    let _ ← o.scheme
    let _ ← o.metricFilter e

/-- The settings of the reporter on a machine of the given name. Tags that are given win over the
one with that name. -/
def settings (e : Engines) (o : Options) (hostname : String) : Except OptionsError Settings := do
  let scheme ← o.scheme
  let filter ← o.metricFilter e
  let tags ← readTags o.tags
  let base : Dict String := if o.tagHost then Dict.empty.insert "host" hostname else .empty
  let drafted : Settings :=
    { period := .ofSeconds o.periodSeconds
      queueCapacity := o.queueCapacity
      lead := o.lead
      tags := base.merge tags
      skipIdle := o.skipIdle
      rateUnit := o.rateUnit
      durationUnit := o.durationUnit
      failurePolicy := o.failurePolicy
      scheme
      filter }
  match drafted.build with
  | .ok s => pure s
  | .error e => throw (.config e.message)

def httpSettings (o : Options) : HttpSettings where
  url := o.url
  database := o.database
  username := o.username
  password := o.password
  connectTimeout := .ofSeconds o.connectTimeoutSeconds
  requestTimeout := .ofSeconds o.requestTimeoutSeconds
  userAgent := HttpSettings.default.userAgent

/-- Opens the transport over a link to a server with the given answers. -/
def outlet (o : Options) (link : Link) (responses : List HttpResponse) :
    Except OptionsError NetworkOutlet :=
  let opened := match o.protocol with
    | .http => (HttpOutlet.new o.httpSettings link responses).map NetworkOutlet.http
    | .udp => (DatagramOutlet.connect link o.udpAddress).map NetworkOutlet.datagram
  match opened with
  | .ok outlet => .ok outlet
  | .error e => .error (.transport e)

end Options

end Telemetry
