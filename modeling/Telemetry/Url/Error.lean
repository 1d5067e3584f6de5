/-!
# Malformed URLs
-/

namespace Telemetry.Url

/-- Why a text is not a URL. -/
inductive Error where
  | emptyHost
  /-- A domain that cannot be written in ASCII, or that holds a character it may not. -/
  | internationalName
  | port
  | ipv4
  | ipv6
  | domainCharacter
  /-- There is no scheme. -/
  | relative
  deriving DecidableEq, Repr

def Error.message : Error → String
  | emptyHost => "empty host"
  | internationalName => "invalid international domain name"
  | port => "invalid port number"
  | ipv4 => "invalid IPv4 address"
  | ipv6 => "invalid IPv6 address"
  | domainCharacter => "invalid domain character"
  | relative => "relative URL without a base"

end Telemetry.Url
