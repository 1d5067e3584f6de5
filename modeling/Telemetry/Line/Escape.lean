/-!
# Escaping

A backslash is put before each character of a set. A backslash in the text stays as it is unless
the set lists it. Names and keys of a line escape the space, the comma and the equals sign.
-/

namespace Telemetry.Line

/-- The characters that separate the parts of a line. -/
def separators : List Char := [' ', ',', '=']

def escapeChars (set : List Char) : List Char → List Char
  | [] => []
  | c :: r => if c ∈ set then '\\' :: c :: escapeChars set r else c :: escapeChars set r

/-- No character of the set occurs in the text. -/
def plain (set : List Char) (s : String) : Bool :=
  s.toList.all (· ∉ set)

/-- A plain text is its own escaped form and is not rebuilt. -/
def escape (set : List Char) (s : String) : String :=
  if plain set s then s else String.ofList (escapeChars set s.toList)

/-- Escapes a name or a key. -/
def escapeKey (s : String) : String :=
  escape separators s

theorem escapeChars_append (set xs ys : List Char) :
    escapeChars set (xs ++ ys) = escapeChars set xs ++ escapeChars set ys := by
  induction xs with
  | nil => rfl
  | cons c r ih => by_cases h : c ∈ set <;> simp [escapeChars, h, ih]

theorem escapeChars_of_plain {set cs : List Char} (h : ∀ c ∈ cs, c ∉ set) :
    escapeChars set cs = cs := by
  induction cs with
  | nil => rfl
  | cons c r ih =>
    rw [escapeChars, if_neg (h c (by simp)), ih fun d hd => h d (by simp [hd])]

@[simp] theorem toList_escape (set : List Char) (s : String) :
    (escape set s).toList = escapeChars set s.toList := by
  unfold escape plain
  split
  · rename_i h
    rw [escapeChars_of_plain]
    simpa using h
  · rw [String.toList_ofList]

end Telemetry.Line
