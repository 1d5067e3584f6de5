import Telemetry.Text.Decimal

/-!
# Transport errors

The causes for which a payload is not delivered.
-/

namespace Telemetry

/-- Why a payload was not delivered. -/
inductive TransportError where
  | invalidConfiguration (reason : String)
  /-- The request got no answer. -/
  | request (reason : String)
  /-- The server answered with another status than success. -/
  | rejected (status : Nat) (body : String)
  | system (reason : String)
  | unavailable (reason : String)
  deriving DecidableEq, Repr

def TransportError.message : TransportError → String
  | invalidConfiguration reason => "Invalid configuration: " ++ reason
  | request reason => "Request failed: " ++ reason
  | rejected status body => "Write rejected: HTTP " ++ Text.natText status ++ " - " ++ body
  | system reason => "I/O error: " ++ reason
  | unavailable reason => "Transport unavailable: " ++ reason

end Telemetry
