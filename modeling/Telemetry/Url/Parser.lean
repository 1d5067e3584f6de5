import Telemetry.Url.Basic

/-!
# Reading URLs

Control characters and spaces at the ends do not count, nor do tabs and line ends anywhere. The
fragment is what follows the first number sign and the query what follows the first question mark
before it; neither is ever wrong. What is left after the scheme is read as its kind tells.
-/

namespace Telemetry.Url

/-- The text without control characters and spaces at its ends. -/
def trimmed (s : String) : List Char :=
  let outer (c : Char) : Bool := c.toNat ≤ 0x20
  (((s.toList.dropWhile outer).reverse).dropWhile outer).reverse

/-- Tabs and line ends, which do not count. -/
def isSkipped (c : Char) : Bool :=
  c = '\t' || c = '\n' || c = '\r'

/-- The characters that count. -/
def counted (cs : List Char) : List Char :=
  cs.filter (!isSkipped ·)

/-- The characters from the first one on that counts. -/
def skip (cs : List Char) : List Char :=
  cs.dropWhile isSkipped

/-- The scheme in small letters and what follows its colon. -/
def cutScheme (cs : List Char) : Option (String × List Char) :=
  match Text.cutFirstChars ':' cs with
  | some (name, rest) =>
    let name := counted name
    if name.head?.any Char.isAlpha && name.all fun c => c.isAlphanum || ['+', '-', '.'].contains c
    then some (String.ofList (name.map Char.toLower), rest)
    else none
  | none => none

/-- Before the mark, and what follows it if it is there. -/
def cutMark (mark : Char) (cs : List Char) : List Char × Option (List Char) :=
  match Text.cutFirstChars mark cs with
  | some (a, b) => (a, some b)
  | none => (cs, none)

/-- Slashes separate segments; with most known schemes a backslash is one too. -/
def isSlash (kind : Kind) (c : Char) : Bool :=
  c = '/' || (kind ≠ .other && c = '\\')

/-! ## Segments -/

/-- A dot, which may be written as its code. -/
def isSingleDot (segment : List Char) : Bool :=
  [".", "%2e"].contains (String.ofList (segment.map Char.toLower))

def isDoubleDot (segment : List Char) : Bool :=
  ["..", ".%2e", "%2e.", "%2e%2e"].contains (String.ofList (segment.map Char.toLower))

/-- A letter for a drive, with a colon or a bar. -/
def isDrive : List Char → Bool
  | [c, mark] => c.isAlpha && (mark = ':' || mark = '|')
  | _ => false

/-- A drive with a colon that a skipped character sets off from what follows. -/
def cutDrive? (segment : List Char) : Option (List Char × List Char) :=
  let drive := segment.takeWhile (· ≠ ':')
  match counted drive, segment.drop drive.length with
  | [c], ':' :: d :: r =>
    if c.isAlpha && isSkipped d && !(counted r).isEmpty then some ([c, ':'], counted r) else none
  | _, _ => none

/-- What was read of a path. -/
structure Walk where
  /-- The segments that a slash follows, last one first. -/
  names : List String
  /-- The path begins with a drive, which stands in the place of a host. -/
  drive : Bool
  deriving DecidableEq, Repr

namespace Walk

def start : Walk := ⟨[], false⟩

def add (w : Walk) (name : String) : Walk :=
  { w with names := name :: w.names }

/-- Drops the last segment, but not one that looks like a drive. -/
def parent (w : Walk) : Walk :=
  if w.names.head?.any fun name => isDrive name.toList then w
  else { w with names := w.names.tail }

/-- Follows a segment that is not made of dots. The first segment of a file may name a drive, with a
colon. -/
def enter (w : Walk) (kind : Kind) (segment : List Char) : Walk :=
  let write (cs : List Char) : String := String.ofList (percentEncode pathSet cs)
  if kind = .file && w.names.isEmpty then
    match cutDrive? segment with
    | some (drive, r) => (w.add (write drive)).add (write r)
    | none =>
      match counted segment with
      | [c, mark] =>
        if isDrive [c, mark] then ⟨[String.ofList [c, ':']], true⟩ else w.add (write [c, mark])
      | cs => w.add (write cs)
  else w.add (write (counted segment))

/-- Follows a segment: one dot stays where it is, and two go back. -/
def follow (w : Walk) (kind : Kind) (segment : List Char) : Walk :=
  if isDoubleDot (counted segment) then w.parent
  else if isSingleDot (counted segment) then w
  else w.enter kind segment

/-- Follows segments. When the last one is made of dots, an empty one is after it. -/
def finish (w : Walk) (kind : Kind) : List (List Char) → Walk
  | [] => w
  | [s] =>
    let w := w.follow kind s
    if isDoubleDot (counted s) || isSingleDot (counted s) then w.add "" else w
  | s :: t :: rest => (w.follow kind s).finish kind (t :: rest)

end Walk

/-! ## Paths -/

/-- The segments between slashes. -/
def cutSegments (kind : Kind) (cs : List Char) : List (List Char) :=
  Text.cutChars '/' (cs.map fun c => if isSlash kind c then '/' else c)

/-- The path of a file begins at the first segment with a name. -/
def dropEmptyLead (names : List String) : List String :=
  match names.dropWhile (·.isEmpty) with
  | [] => [""]
  | names => names

/-- A path with or without its leading slash, and whether it begins with a drive. Only with an
unknown scheme it may be empty. -/
def readPath (kind : Kind) (cs : List Char) : Path × Bool :=
  let segments := match skip cs with
    | [] => if kind = .other then [] else [[]]
    | c :: r => cutSegments kind (if isSlash kind c then r else c :: r)
  let w := Walk.start.finish kind segments
  let names := w.names.reverse
  (.segments (if kind = .file then dropEmptyLead names else names), w.drive)

/-- The URL of a name in the place that this URL shows: after a last slash, else after one more. The
path is read anew with the name. -/
def inside (u : Url) (name : String) : Url :=
  match u.path with
  | .verbatim _ => u
  | .segments names =>
    let place := if names.getLast? = some "" then u.path.text else u.path.text ++ "/"
    { u with path := (readPath u.kind (place ++ name).toList).1 }

/-! ## Authorities -/

/-- Before the first slash, and from it on. -/
def cutAtSlash (kind : Kind) (cs : List Char) : List Char × List Char :=
  (cs.takeWhile (!isSlash kind ·), cs.dropWhile (!isSlash kind ·))

/-- The user and the password that stand before the last at sign. -/
def readUser (cs : List Char) : String × String :=
  let (user, password) := cutMark ':' cs
  let write (cs : List Char) : String := String.ofList (percentEncode userSet cs)
  (write user, write (password.getD []))

/-- Before the first colon outside brackets, and what follows it. -/
def cutPort (inside : Bool) : List Char → List Char × Option (List Char)
  | [] => ([], none)
  | c :: r =>
    if c = ':' && !inside then ([], some r)
    else
      let (host, port) := cutPort (if c = '[' then true else if c = ']' then false else inside) r
      (c :: host, port)

/-- A port that is empty or the default of the scheme is left out. -/
def readPort (scheme : String) (cs : List Char) : Except Error (Option Nat) :=
  if cs.isEmpty then .ok none
  else
    match Text.radixValue? 10 cs with
    | some p =>
      if 65535 < p then .error .port
      else .ok (if defaultPort? scheme = some p then none else some p)
    | none => .error .port

/-- Where a host may not be missing: with a known scheme, with a port or a user, and where an at
sign stands alone before the rest. -/
def needsHost (kind : Kind) (userinfo port : Option (List Char)) (more : Bool) : Bool :=
  kind = .special || port.isSome || userinfo.any fun u => if u.isEmpty then more else u ≠ [':']

/-- Reads what follows two slashes; `more` tells whether a query or fragment is after it. A backslash
ends the port also where it is no slash. -/
def readAuthority (scheme : String) (more : Bool) (cs : List Char) : Except Error Url := do
  let kind := Kind.ofScheme scheme
  let (authority, path) := cutAtSlash kind cs
  let (userinfo, address) := match Text.cutLastChars '@' (counted authority) with
    | some (userinfo, address) => (some userinfo, address)
    | none => (none, counted authority)
  let (name, port) := cutPort false address
  if name.isEmpty && needsHost kind userinfo port (more || !(skip path).isEmpty) then
    throw .emptyHost
  let host ← if kind = .special then Host.read name else Host.readVerbatim name
  let digits := port.getD []
  let port ← readPort scheme (digits.takeWhile (· ≠ '\\'))
  let (user, password) := readUser (userinfo.getD [])
  let (path, _) := readPath kind (digits.dropWhile (· ≠ '\\') ++ path)
  pure { scheme, user, password, host, port, path, query := none, fragment := none }

/-- Reads what follows the scheme of a file. -/
def readFile (cs : List Char) : Except Error Url := do
  let file (host : Host) (path : List Char) : Url :=
    let (path, drive) := readPath .file path
    { scheme := "file", user := "", password := "", host := some (if drive then .domain "" else host),
      port := none, path, query := none, fragment := none }
  match skip cs with
  | a :: r =>
    match skip r with
    | b :: r' =>
      if isSlash .file a && isSlash .file b then
        let (name, path) := cutAtSlash .file r'
        let name := counted name
        if name.isEmpty then pure (file (.domain "") path)
        else if isDrive name then pure (file (.domain "") r')
        else
          let host ← Host.read name
          pure (file (if host = .domain "localhost" then .domain "" else host) path)
      else pure (file (.domain "") cs)
    | [] => pure (file (.domain "") cs)
  | [] => pure (file (.domain "") cs)

/-- Reads what follows a scheme that is not known; `more` tells whether a query or fragment is after
it. -/
def readOther (scheme : String) (more : Bool) (cs : List Char) : Except Error Url :=
  let url (path : Path) : Url :=
    { scheme, user := "", password := "", host := none, port := none, path, query := none,
      fragment := none }
  match skip cs with
  | '/' :: r =>
    match skip r with
    | '/' :: r' => readAuthority scheme more r'
    | _ => .ok (url (readPath .other cs).1)
  | cs => .ok (url (.verbatim (String.ofList (percentEncode controlSet (counted cs)))))

/-- Reads a URL that stands for itself. -/
def parse (s : String) : Except Error Url := do
  match cutScheme (trimmed s) with
  | none => throw .relative
  | some (scheme, rest) =>
    let (rest, fragment) := cutMark '#' rest
    let (rest, query) := cutMark '?' rest
    let more := query.isSome || fragment.isSome
    let url ← match Kind.ofScheme scheme with
      | .file => readFile rest
      | .special =>
        readAuthority scheme more (rest.dropWhile fun c => isSlash .special c || isSkipped c)
      | .other => readOther scheme more rest
    let write (set : Char → Bool) (cs : List Char) : String :=
      String.ofList (percentEncode set (counted cs))
    let set := if url.kind = .other then querySet else knownQuerySet
    pure { url with query := query.map (write set), fragment := fragment.map (write fragmentSet) }

end Telemetry.Url
