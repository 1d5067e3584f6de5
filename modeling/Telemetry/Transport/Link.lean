/-!
# Links

Whether messages can leave the machine.
-/

namespace Telemetry

inductive Link where
  | up
  | down
  deriving DecidableEq, Repr, Inhabited

/-- What the system says when a link is down. -/
def Link.fault : String := "Network is unreachable (os error 101)"

end Telemetry
