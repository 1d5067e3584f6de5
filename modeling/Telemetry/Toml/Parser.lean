import Telemetry.Toml.Scalar

/-!
# Reading TOML

A document is read line by line: a header opens a table, and an entry adds a value to the table that
is open. A value in brackets may extend over lines, a table in braces may not. Values are nested
less than eighty deep.
-/

namespace Telemetry.Toml

def dropGaps (cs : List Char) : List Char :=
  cs.dropWhile isGap

/-- Drops gaps, line ends and comments; a comment holds no control character but the tab. -/
def dropLines (comment : Bool) : List Char → Option (List Char)
  | [] => some []
  | '\r' :: '\n' :: r => dropLines false r
  | '\n' :: r => dropLines false r
  | c :: r =>
    if comment then if plainChar c then dropLines true r else none
    else if isGap c then dropLines false r
    else if c = '#' then dropLines true r
    else some (c :: r)

/-- The rest after a line that ends here, but for a comment. -/
def endLine (cs : List Char) : Option (List Char) :=
  match dropGaps cs with
  | [] => some []
  | '\n' :: r | '\r' :: '\n' :: r => some r
  | '#' :: r => dropLines true r
  | _ => none

/-- Reads the names between dots; at most `n` of them. -/
def readNames : Nat → List Char → Option (List String × List Char)
  | 0, _ => none
  | n + 1, cs => do
    let (name, r) ← readName (dropGaps cs)
    match dropGaps r with
    | '.' :: r =>
      let (names, r) ← readNames n r
      pure (String.ofList name :: names, r)
    | r => pure ([String.ofList name], r)

/-- The deepest nesting of values, and the most names in a key. -/
def depthLimit : Nat := 79

/-- Reads a key: the names that lead to a table, and the name in it. -/
def readKey (cs : List Char) : Option ((List String × String) × List Char) := do
  let (names, r) ← readNames depthLimit cs
  match names.getLast? with
  | none => none
  | some name => some ((names.dropLast, name), r)

/-- Reads a key and the equals sign after it. -/
def readKeyEquals (cs : List Char) : Option ((List String × String) × List Char) := do
  let (key, r) ← readKey cs
  match r with
  | '=' :: r => some (key, dropGaps r)
  | _ => none

mutual

/-- Reads a value; `n` bounds the steps and `depth` the nesting. -/
def readValue (n depth : Nat) (cs : List Char) : Option (Toml × List Char) :=
  match n with
  | 0 => none
  | n + 1 =>
    match cs with
    | '"' :: _ | '\'' :: _ => (readText cs).map fun (s, r) => (.text (String.ofList s), r)
    | '[' :: r =>
      if depth = 0 then none
      else do
        let r ← dropLines false r
        match r with
        | ']' :: r => pure (.list false [], r)
        | r =>
          let (items, r) ← readItems n (depth - 1) r
          pure (.list false items, r)
    | '\x7b' :: r =>
      if depth = 0 then none
      else
        match dropGaps r with
        | '\x7d' :: r => some (.table .braces [], r)
        | r => do
          let (entries, r) ← readEntries n (depth - 1) [] r
          pure (.table .braces entries, r)
    | cs =>
      let (word, r) := cutWord cs
      (ofWord? word).map fun v => (v, r)

/-- Reads one value or more up to the closing bracket, which a comma may precede. -/
def readItems (n depth : Nat) (cs : List Char) : Option (List Toml × List Char) :=
  match n with
  | 0 => none
  | n + 1 => do
    let (v, r) ← readValue n depth cs
    let r ← dropLines false r
    match r with
    | ']' :: r => pure ([v], r)
    | ',' :: r =>
      let r ← dropLines false r
      match r with
      | ']' :: r => pure ([v], r)
      | r =>
        let (vs, r) ← readItems n depth r
        pure (v :: vs, r)
    | _ => none

/-- Reads one entry or more up to the closing brace. -/
def readEntries (n depth : Nat) (es : Entries) (cs : List Char) : Option (Entries × List Char) :=
  match n with
  | 0 => none
  | n + 1 => do
    let ((path, name), r) ← readKeyEquals cs
    let (v, r) ← readValue n depth r
    let es ← es.addInside path name v
    match dropGaps r with
    | '\x7d' :: r => pure (es, r)
    | ',' :: r => readEntries n depth es r
    | _ => none

end

/-- Reads the header of a table, or of one more table of a list, after its first bracket. -/
def readHeader (cs : List Char) : Option ((Bool × List String × String) × List Char) :=
  match cs with
  | '[' :: r => do
    let ((path, name), r) ← readKey r
    match r with
    | ']' :: ']' :: r => some ((true, path, name), r)
    | _ => none
  | r => do
    let ((path, name), r) ← readKey r
    match r with
    | ']' :: r => some ((false, path, name), r)
    | _ => none

/-- Reads lines into a table, of which the one under `header` is open. -/
def readLines : Nat → List String → Entries → List Char → Option Entries
  | 0, _, _, _ => none
  | n + 1, header, es, cs => do
    let cs ← dropLines false cs
    match cs with
    | [] => pure es
    | '[' :: r =>
      let ((item, path, name), r) ← readHeader r
      let es ← es.openHeader item path name
      let r ← endLine r
      readLines n (path ++ [name]) es r
    | cs =>
      let ((path, name), r) ← readKeyEquals cs
      let (v, r) ← readValue (2 * r.length + 2) depthLimit r
      let es ← es.addUnder header path name v
      let r ← endLine r
      readLines n header es r

/-- The entries of a document, which a byte order mark may precede. -/
def parse? (s : String) : Option Entries :=
  let cs := match s.toList with
    | '\ufeff' :: r => r
    | cs => cs
  readLines (cs.length + 1) [] [] cs

end Telemetry.Toml
