import Telemetry.Dict
import Telemetry.Text.Blank
import Telemetry.Text.Cut
import Telemetry.Text.Lowercase

/-!
# Naming schemes

A metric name is cut at its dots. A scheme turns leading segments into tags and joins the others
into the name of the measurement, which always keeps at least one segment. A list of categories
names the tags in order; under the key and value scheme the segments come in pairs of key and value.
-/

namespace Telemetry

inductive NameScheme where
  | identity
  | categories (names : List String)
  | keyValue
  deriving DecidableEq, Repr, Inhabited

namespace NameScheme

def segments (metric : String) : List String :=
  Text.cut '.' metric

/-- Pairs each category with a segment as long as another segment follows. -/
def categoryTags : List String → List String → List (String × String)
  | c :: cs, p :: q :: ps => (c, p) :: categoryTags cs (q :: ps)
  | _, _ => []

/-- What the categories leave. -/
def categoryRest : List String → List String → List String
  | _ :: cs, _ :: q :: ps => categoryRest cs (q :: ps)
  | _, ps => ps

/-- Pairs a key with a value as long as another segment follows. -/
def pairTags : List String → List (String × String)
  | k :: v :: q :: ps => (k, v) :: pairTags (q :: ps)
  | _ => []

/-- What the pairs leave. -/
def pairRest : List String → List String
  | _ :: _ :: q :: ps => pairRest (q :: ps)
  | ps => ps

/-- The name of the measurement that a metric is reported under. -/
def measurement (s : NameScheme) (metric : String) : String :=
  match s with
  | identity => metric
  | categories names => Text.join '.' (categoryRest names (segments metric))
  | keyValue => Text.join '.' (pairRest (segments metric))

/-- The tags taken from the name of a metric, the last segment for a key winning. -/
def tags (s : NameScheme) (metric : String) : Dict String :=
  match s with
  | identity => .empty
  | categories names => .ofList (categoryTags names (segments metric))
  | keyValue => .ofList (pairTags (segments metric))

def categoryLead : String := "categories:"

/-- The written form of a scheme. -/
def text : NameScheme → String
  | identity => "identity"
  | categories names => categoryLead ++ Text.join ',' names
  | keyValue => "key-value"

inductive ParseError where
  | noCategories
  /-- The text in small letters. -/
  | unknown (name : String)
  deriving DecidableEq, Repr

def ParseError.message : ParseError → String
  | noCategories => "categories transformer needs at least one category"
  | unknown name => s!"unknown name transformer '{name}'" ++
      ". Valid values: identity, key-value, categories:<list>"

/-- The entries between commas, trimmed, without the blank ones. -/
def readCategories (list : List Char) : List String :=
  (((Text.cutChars ',' list).map Text.trimChars).filter (· ≠ [])).map String.ofList

/-- Reads a scheme. Categories keep their letters, a keyword may be written in any case. -/
def parse (s : String) : Except ParseError NameScheme :=
  match Text.afterLead categoryLead.toList (Text.trimChars s.toList) with
  | some list =>
    match readCategories list with
    | [] => .error .noCategories
    | names => .ok (categories names)
  | none =>
    let word := Text.lowercase (Text.trim s)
    if word ∈ ["identity", "none", ""] then .ok identity
    else if word ∈ ["key-value", "keyvalue", "key_value"] then .ok keyValue
    else .error (.unknown word)

end NameScheme

end Telemetry
