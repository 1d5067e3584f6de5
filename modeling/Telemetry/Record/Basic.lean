import Telemetry.Dict
import Telemetry.Record.Value

/-!
# Records

A record is one reading of one instrument: a name, tags, at least one field and a timestamp in
milliseconds. It is drafted tag by tag and field by field. The last tag and the last encodable value
given for a key win, and a draft becomes a record when it has a name and a field.
-/

namespace Telemetry

/-- Fields are kept as tokens. -/
structure Record where
  name : String
  tags : Dict String
  fields : Dict String
  timestamp : Int64
  deriving DecidableEq, Repr

inductive RecordError where
  | emptyName
  | noFields (name : String)
  deriving DecidableEq, Repr

def RecordError.message : RecordError → String
  | emptyName => "Measurement name must not be empty"
  | noFields name => s!"Measurement '{name}' has no fields"

/-- A record under construction. -/
structure Draft where
  name : String
  timestamp : Int64
  tags : Dict String
  fields : Dict String
  deriving DecidableEq, Repr

namespace Draft

def new (name : String) (timestamp : Int64) : Draft :=
  ⟨name, timestamp, .empty, .empty⟩

def tag (d : Draft) (k v : String) : Draft :=
  { d with tags := d.tags.insert k v }

/-- Adds the tags one by one, the last with a key winning. -/
def tagAll (d : Draft) (ps : List (String × String)) : Draft :=
  { d with tags := d.tags.insertAll ps }

/-- A value that is not encodable leaves the draft as it was. -/
def field (d : Draft) (k : String) (v : FieldValue) : Draft :=
  if v.encodable then { d with fields := d.fields.insert k v.token } else d

def hasField (d : Draft) (k : String) : Bool :=
  d.fields.contains k

def build (d : Draft) : Except RecordError Record :=
  if d.name.isEmpty then .error .emptyName
  else if d.fields.isEmpty then .error (.noFields d.name)
  else .ok ⟨d.name, d.tags, d.fields, d.timestamp⟩

theorem get?_tags_tag (d : Draft) (k v q : String) :
    (d.tag k v).tags.get? q = if k = q then some v else d.tags.get? q :=
  Dict.get?_insert _ _ _ _

theorem get?_fields_field (d : Draft) (k : String) (v : FieldValue) (q : String) :
    (d.field k v).fields.get? q =
      if k = q ∧ v.encodable then some v.token else d.fields.get? q := by
  unfold field
  by_cases h : v.encodable <;> simp [h]

@[simp] theorem fields_tag (d : Draft) (k v : String) : (d.tag k v).fields = d.fields := rfl

@[simp] theorem tags_field (d : Draft) (k : String) (v : FieldValue) :
    (d.field k v).tags = d.tags := by
  unfold field
  split <;> rfl

@[simp] theorem name_field (d : Draft) (k : String) (v : FieldValue) :
    (d.field k v).name = d.name := by
  unfold field
  split <;> rfl

@[simp] theorem timestamp_field (d : Draft) (k : String) (v : FieldValue) :
    (d.field k v).timestamp = d.timestamp := by
  unfold field
  split <;> rfl

end Draft

end Telemetry
