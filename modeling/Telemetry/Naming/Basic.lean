import Telemetry.Naming.Scheme

/-!
# Naming of records

Every metric name is first put behind a common lead, if there is one, and then divided by the
scheme. The tags taken from the name win over the tags common to all records.
-/

namespace Telemetry

structure Naming where
  /-- Put in front of every metric name, with a dot. -/
  lead : Option String
  baseTags : Dict String
  scheme : NameScheme
  deriving DecidableEq, Repr

namespace Naming

/-- A blank lead is no lead, and blank characters around it do not count. -/
def new (lead : Option String) (baseTags : Dict String) (scheme : NameScheme) : Naming :=
  ⟨(lead.map Text.trim).filter (¬ ·.isEmpty), baseTags, scheme⟩

def fullName (n : Naming) (metric : String) : String :=
  match n.lead with
  | some lead => lead ++ "." ++ metric
  | none => metric

/-- The name of the measurement and the tags of a metric. -/
def resolve (n : Naming) (metric : String) : String × Dict String :=
  let full := n.fullName metric
  (n.scheme.measurement full, n.baseTags.merge (n.scheme.tags full))

end Naming

end Telemetry
