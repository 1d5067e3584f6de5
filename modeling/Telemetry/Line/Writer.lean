import Telemetry.Record.Basic
import Telemetry.TimeUnit

/-!
# Lines

A record is written as one line: the name, its tags, a space, its fields, a space and the timestamp
in the precision of the receiver. Tags and fields come by ascending key. Names, keys and tag values
are escaped and tokens are not. Several lines are joined by line feeds, with none at the end.
-/

namespace Telemetry.Line

/-- A key and what it is set to, both ready to be written. -/
def assignment (k v : String) : String :=
  k ++ "=" ++ v

def tagSet (tags : Dict String) : String :=
  String.join (tags.entries.map fun (k, v) => "," ++ assignment (escapeKey k) (escapeKey v))

def fieldSet (fields : Dict String) : String :=
  ",".intercalate (fields.entries.map fun (k, token) => assignment (escapeKey k) token)

def write (precision : TimeUnit) (r : Record) : String :=
  escapeKey r.name ++ tagSet r.tags ++ " " ++ fieldSet r.fields ++ " " ++
    Text.intText (precision.convertMillis r.timestamp).toInt

def writeAll (precision : TimeUnit) (rs : List Record) : String :=
  "\n".intercalate (rs.map (write precision))

end Telemetry.Line
