import Telemetry.Transport.Error

/-!
# Warnings

What the reporter says about trouble that it copes with by itself.
-/

namespace Telemetry

inductive Warning where
  /-- The count of an instrument fell below the one reported last. -/
  | countFell (metric : String) (previous count : Int64)
  /-- A flush failed and its records are kept. -/
  | flushFailed (records : Nat) (error : TransportError)
  /-- An instrument could not be read and the cycle is given up. -/
  | cycleSkipped (metric error : String)
  /-- An instrument could not be read and is left out. -/
  | metricLeftOut (metric error : String)
  deriving DecidableEq, Repr

def Warning.message : Warning → String
  | countFell .. => "Saw a non-monotonically increasing count"
  | flushFailed .. => "Failed to send measurements, keeping them for the next flush"
  | cycleSkipped .. => "Unable to report metrics, skipping this cycle"
  | metricLeftOut .. => "Unable to report metric, leaving it out"

/-- What a warning tells besides, by name. -/
def Warning.fields : Warning → List (String × String)
  | countFell metric previous count =>
    [("metric", metric), ("previous", Text.intText previous.toInt),
      ("count", Text.intText count.toInt)]
  | flushFailed records error => [("records", Text.natText records), ("error", error.message)]
  | cycleSkipped metric error | metricLeftOut metric error => [("metric", metric), ("error", error)]

end Telemetry
