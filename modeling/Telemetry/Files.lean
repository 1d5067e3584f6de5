import Telemetry.Text.Cut

/-!
# Files

Files are known by their paths. To the system a text ends at a null character, so none that is
handed to it may hold one. The names in a path are limited in length, and a path without a name
leads to a directory.
-/

namespace Telemetry

/-- The files that there are, by their paths, and the text of each. -/
structure Files where
  texts : List (String × String)
  deriving Repr

namespace Files

/-- Why the system takes no such text. -/
def handedFault? (s : String) : Option String :=
  if s.toList.contains '\x00' then some "file name contained an unexpected NUL byte" else none

/-- The most bytes of a path, and of each name in it. -/
def pathLimit : Nat := 4095

def nameLimit : Nat := 255

/-- Parts of a path that lead nowhere else than to a directory that is there. -/
def isStep (part : String) : Bool :=
  part ∈ ["", ".", ".."]

/-- Why the path leads to no file, whatever files there are. -/
def pathFault? (path : String) : Option String :=
  if path.isEmpty then none
  else if pathLimit < path.utf8ByteSize then some "File name too long (os error 36)"
  else
    match (Text.cut '/' path).dropWhile isStep with
    | [] => some "Is a directory (os error 21)"
    | name :: _ =>
      if nameLimit < name.utf8ByteSize then some "File name too long (os error 36)" else none

/-- The text of a file, or why it cannot be read. -/
def read (f : Files) (path : String) : Except String String :=
  match (handedFault? path).or (pathFault? path), f.texts.find? (·.1 = path) with
  | some reason, _ => .error reason
  | none, some (_, text) => .ok text
  | none, none => .error "No such file or directory (os error 2)"

end Files

end Telemetry
