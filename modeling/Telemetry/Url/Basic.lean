import Telemetry.Text.Cut
import Telemetry.Url.Host

/-!
# URLs

A URL in its parts, each kept as it is written. The path is a list of segments, or a text of its own
when the URL has neither host nor leading slash; such a URL cannot be the base of another.
-/

namespace Telemetry

namespace Url

/-- How the rest of a URL is read, told by its scheme. -/
inductive Kind where
  | file
  /-- With a host that is a domain or an address. -/
  | special
  | other
  deriving DecidableEq, Repr

def Kind.ofScheme (scheme : String) : Kind :=
  if scheme = "file" then file
  else if scheme ∈ ["http", "https", "ws", "wss", "ftp"] then special
  else other

/-- The port that is not written. -/
def defaultPort? (scheme : String) : Option Nat :=
  if scheme ∈ ["http", "ws"] then some 80
  else if scheme ∈ ["https", "wss"] then some 443
  else if scheme = "ftp" then some 21
  else none

inductive Path where
  /-- Each segment follows a slash. -/
  | segments (names : List String)
  | verbatim (text : String)
  deriving DecidableEq, Repr

def Path.text : Path → String
  | segments names => String.join (names.map ("/" ++ ·))
  | verbatim text => text

end Url

structure Url where
  scheme : String
  user : String
  password : String
  host : Option Url.Host
  /-- Nothing for the default port of the scheme. -/
  port : Option Nat
  path : Url.Path
  query : Option String
  fragment : Option String
  deriving DecidableEq, Repr

namespace Url

def kind (u : Url) : Kind :=
  .ofScheme u.scheme

/-- Another URL can be relative to this one. -/
def canBeBase (u : Url) : Bool :=
  match u.path with
  | .segments _ => true
  | .verbatim _ => false

/-- Before the host, if a user or password is named. -/
def userText (u : Url) : String :=
  let password := if u.password.isEmpty then "" else ":" ++ u.password
  if u.user.isEmpty && u.password.isEmpty then "" else u.user ++ password ++ "@"

/-- Between the scheme and the path. Without a host, a path that begins with two slashes is set off
by a dot, or its second segment would be read as a host. -/
def authorityText (u : Url) : String :=
  match u.host with
  | some host =>
    let port := match u.port with
      | some p => ":" ++ Text.natText p
      | none => ""
    "//" ++ u.userText ++ host.text ++ port
  | none =>
    match u.path with
    | .segments ("" :: _ :: _) => "/."
    | _ => ""

def text (u : Url) : String :=
  let after (mark : String) (part : Option String) : String :=
    match part with
    | some s => mark ++ s
    | none => ""
  u.scheme ++ ":" ++ u.authorityText ++ u.path.text ++ after "?" u.query ++ after "#" u.fragment

end Url

end Telemetry
