import Telemetry.Line.Escape
import Telemetry.Number.Positional
import Telemetry.Number.Word
import Telemetry.Text.Decimal

/-!
# Field values

A field holds an integer, a double, a truth value or a text. Its token is what a line shows: the
integer ends in `i`, the double is positional, and the text stands in double quotes with a backslash
before each inner quote. Doubles that are not finite have no place in a line.
-/

namespace Telemetry

inductive FieldValue where
  | integer (v : Int64)
  | float (v : Float)
  | boolean (v : Bool)
  | text (v : String)

namespace FieldValue

/-- An unsigned number above the signed range becomes the largest integer. -/
def ofUnsigned (n : UInt64) : FieldValue :=
  integer (Number.clampCount n)

def quote (s : String) : String :=
  "\"" ++ Line.escape ['"'] s ++ "\""

def token : FieldValue → String
  | integer v => Text.intText v.toInt ++ "i"
  | float v => Number.floatText v
  | boolean true => "true"
  | boolean false => "false"
  | text v => quote v

/-- May stand in a line. -/
def encodable : FieldValue → Bool
  | float v => Number.isFinite v
  | _ => true

end FieldValue

end Telemetry
