/-!
# TOML documents

A document is a table: names with values, each name once. Tables come about in four ways, and the
way decides which later lines may add to a table.
-/

namespace Telemetry

namespace Toml

/-- How a table came about. -/
inductive Origin where
  /-- Written in braces, and complete with them. -/
  | braces
  /-- Made by a key with dots. -/
  | dotted
  /-- Made by the header of a table inside it. -/
  | implied
  /-- Opened by a header of its own. -/
  | opened
  deriving DecidableEq, Repr

end Toml

inductive Toml where
  | text (s : String)
  | whole (i : Int)
  /-- A number with a fraction or an exponent, as it is written. -/
  | real (s : String)
  | flag (b : Bool)
  /-- A date, a time or both, as it is written. -/
  | moment (s : String)
  /-- Values in brackets, or tables under headers, to which later headers add. -/
  | list (headed : Bool) (items : List Toml)
  | table (origin : Toml.Origin) (entries : List (String × Toml))
  deriving Repr, Inhabited

namespace Toml

abbrev Entries := List (String × Toml)

def Entries.get? (es : Entries) (name : String) : Option Toml :=
  (es.find? (·.1 = name)).map (·.2)

/-- Replaces the value of a name, or adds the name at the end. -/
def Entries.put (name : String) (v : Toml) : Entries → Entries
  | [] => [(name, v)]
  | (k, w) :: es => if k = name then (name, v) :: es else (k, w) :: Entries.put name v es

/-- Changes the entries of the last table under a header. -/
def alterLast (f : Entries → Option Entries) : List Toml → Option (List Toml)
  | [] => none
  | [.table o es] => (f es).map fun es => [.table o es]
  | [_] => none
  | t :: u :: ts => (alterLast f (u :: ts)).map (t :: ·)

/-- Changes the table that a path leads to. Tables on the way are made if they are missing, and only
those may be entered whose origin is allowed. -/
def Entries.descend (make : Origin) (allowed : Origin → Bool)
    (f : Origin → Entries → Option Entries) : List String → Origin → Entries → Option Entries
  | [], o, es => f o es
  | k :: ks, _, es =>
    match es.get? k with
    | none => (Entries.descend make allowed f ks make []).map fun sub => es.put k (.table make sub)
    | some (.table o sub) =>
      if allowed o then
        (Entries.descend make allowed f ks o sub).map fun sub => es.put k (.table o sub)
      else none
    | some (.list true items) =>
      (alterLast (Entries.descend make allowed f ks .opened) items).map fun items =>
        es.put k (.list true items)
    | some _ => none

/-- Adds an entry to a table, which a key with dots must itself have made. -/
def addEntry (path : List String) (name : String) (v : Toml) (o : Origin) (es : Entries) :
    Option Entries :=
  if decide (o = .dotted) == path.isEmpty || (es.get? name).isSome then none
  else some (es.put name v)

/-- Adds a value in braces under a key. A key with dots goes on only from another one. -/
def Entries.addInside (es : Entries) (path : List String) (name : String) (v : Toml) :
    Option Entries :=
  es.descend .dotted (· = .dotted) (addEntry path name v) path .braces

/-- Adds a value under a key to the table of a header. -/
def Entries.addUnder (es : Entries) (header path : List String) (name : String) (v : Toml) :
    Option Entries :=
  es.descend .implied (· ≠ .braces)
    (fun _ es =>
      es.descend .dotted (fun o => o ≠ .braces && o ≠ .opened) (addEntry path name v) path .opened)
    header .opened

/-- Opens a table, which may have been implied but not been opened before. -/
def openTable (name : String) (es : Entries) : Option Entries :=
  match es.get? name with
  | none => some (es.put name (.table .opened []))
  | some (.table .implied sub) => some (es.put name (.table .opened sub))
  | some _ => none

/-- Opens one more table of a list. -/
def openItem (name : String) (es : Entries) : Option Entries :=
  match es.get? name with
  | none => some (es.put name (.list true [.table .opened []]))
  | some (.list true items) => some (es.put name (.list true (items ++ [.table .opened []])))
  | some _ => none

/-- Follows a header, of one more table of a list if `item`. -/
def Entries.openHeader (es : Entries) (item : Bool) (path : List String) (name : String) :
    Option Entries :=
  es.descend .implied (· ≠ .braces) (fun _ => if item then openItem name else openTable name)
    path .opened

end Toml

end Telemetry
