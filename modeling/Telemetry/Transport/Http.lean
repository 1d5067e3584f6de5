import Telemetry.Text.Base64
import Telemetry.Transport.Basic
import Telemetry.Transport.Link
import Telemetry.Url.Parser

/-!
# HTTP

Each batch is posted to the place `write` under the URL of the server, with timestamps in
milliseconds. Any status of success accepts the batch, also one that says that nothing was stored.
-/

namespace Telemetry

/-- The name and version that this library announces. -/
def productName : String := "influx-metrics-reporter/0.1.0"

structure HttpSettings where
  url : String
  database : String
  username : Option String
  password : Option String
  connectTimeout : Duration
  requestTimeout : Duration
  userAgent : String
  deriving DecidableEq, Repr

def HttpSettings.default : HttpSettings where
  url := "http://localhost:8086"
  database := "metrics"
  username := none
  password := none
  connectTimeout := .ofSeconds 5
  requestTimeout := .ofSeconds 10
  userAgent := productName

structure HttpRequest where
  method : String
  /-- The path and the query. -/
  target : String
  contentType : String
  userAgent : String
  authorization : Option String
  body : String
  deriving DecidableEq, Repr

structure HttpResponse where
  status : Nat
  body : String
  deriving DecidableEq, Repr

namespace HttpResponse

/-- What a server says that stored a batch. -/
def noContent : HttpResponse := ⟨204, ""⟩

def answer (r : HttpResponse) : Except TransportError Unit :=
  if 200 ≤ r.status ∧ r.status < 300 then .ok () else .error (.rejected r.status r.body)

end HttpResponse

/-- A server with what it will answer, and no content after that. -/
structure HttpOutlet where
  writeUrl : Url
  userAgent : String
  authorization : Option String
  link : Link
  responses : List HttpResponse
  /-- The requests that arrived, in order. -/
  received : List HttpRequest

namespace HttpOutlet

/-- The URL that batches for a database are written to. -/
def writeUrl? (base database : String) : Except TransportError Url :=
  match Url.parse base with
  | .error e => .error (.invalidConfiguration s!"Invalid URL '{base}': {e.message}")
  | .ok url =>
    if url.canBeBase then
      let query := Url.formQuery [("db", database), ("precision", "ms")]
      .ok { url.inside "write" with query := some query }
    else .error (.invalidConfiguration s!"URL '{base}' cannot be used as a base")

/-- A header may hold any character but control characters, of which it may hold the tab. -/
def headerChar (c : Char) : Bool :=
  c = '\t' || (0x20 ≤ c.toNat && c.toNat ≠ 0x7F)

/-- Basic authorization. A missing password is empty. -/
def basicAuthorization (username : String) (password : Option String) : String :=
  let credentials := username.toList ++ ':' :: (password.getD "").toList
  "Basic " ++ String.ofList (Text.base64 (Url.bytes credentials))

def new (s : HttpSettings) (link : Link) (responses : List HttpResponse) :
    Except TransportError HttpOutlet := do
  let writeUrl ← writeUrl? s.url s.database
  if s.userAgent.toList.all headerChar then
    pure { writeUrl, link, responses, userAgent := s.userAgent, received := []
           authorization := s.username.map fun name => basicAuthorization name s.password }
  else throw (.invalidConfiguration "Invalid user agent: failed to parse header value")

def request (o : HttpOutlet) (body : String) : HttpRequest where
  method := "POST"
  target := o.writeUrl.path.text ++ "?" ++ o.writeUrl.query.getD ""
  contentType := "text/plain; charset=utf-8"
  userAgent := o.userAgent
  authorization := o.authorization
  body

/-- Only servers that speak the protocol can be asked. -/
def reachable (o : HttpOutlet) : Bool :=
  o.link = .up && o.writeUrl.scheme ∈ ["http", "https"]

def send (o : HttpOutlet) (body : String) : Except TransportError Unit × HttpOutlet :=
  if o.reachable then
    let (response, responses) := match o.responses with
      | [] => (HttpResponse.noContent, [])
      | r :: rs => (r, rs)
    (response.answer, { o with responses, received := o.received ++ [o.request body] })
  else (.error (.request s!"error sending request for url ({o.writeUrl.text})"), o)

def transport : Transport HttpOutlet :=
  ⟨.batch, .milliseconds, ⟨0⟩, send⟩

end HttpOutlet

end Telemetry
