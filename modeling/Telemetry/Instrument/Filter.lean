import Telemetry.Text.Cut

/-!
# Metric filters

A filter picks the instruments that take part in a report by their names.
-/

namespace Telemetry

inductive MetricFilter where
  | all
  /-- Names that begin with a text. -/
  | leading (lead : String)
  /-- Names in which a pattern occurs, given with its source. -/
  | matching (source : String) (occursIn : String → Bool)

namespace MetricFilter

def accepts : MetricFilter → String → Bool
  | all, _ => true
  | leading lead, name => (Text.afterLead lead.toList name.toList).isSome
  | matching _ occursIn, name => occursIn name

/-- The filter for a pattern, as it was compiled. -/
def ofPattern (compile : String → Except String (String → Bool)) (source : String) :
    Except String MetricFilter :=
  (compile source).map (matching source)

end MetricFilter

end Telemetry
