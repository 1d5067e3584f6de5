import Telemetry.Text.Radix

/-!
# Percent encoding

A character that may not stand for itself is written as the bytes of its UTF-8 form, each as a
percent sign and two hexadecimal digits. Which characters these are depends on the part of the URL.
Form encoding writes a space as a plus sign besides.
-/

namespace Telemetry.Url

/-- The bytes of a text in UTF-8. -/
def bytes (cs : List Char) : List UInt8 :=
  cs.flatMap String.utf8EncodeChar

def escapeByte (b : UInt8) : List Char :=
  ['%', Text.hexDigit (b.toNat / 16), Text.hexDigit (b.toNat % 16)]

def escapeChar (c : Char) : List Char :=
  (String.utf8EncodeChar c).flatMap escapeByte

/-- Escapes the characters of a set. -/
def percentEncode (set : Char → Bool) (cs : List Char) : List Char :=
  cs.flatMap fun c => if set c then escapeChar c else [c]

/-- Control characters and all beyond ASCII. -/
def controlSet (c : Char) : Bool :=
  c.toNat < 0x20 || 0x7E < c.toNat

def fragmentSet (c : Char) : Bool :=
  controlSet c || [' ', '"', '<', '>', '\x60'].contains c

def querySet (c : Char) : Bool :=
  controlSet c || [' ', '"', '#', '<', '>'].contains c

/-- With schemes that are known, quotes are escaped besides. -/
def knownQuerySet (c : Char) : Bool :=
  querySet c || c = '\''

def pathSet (c : Char) : Bool :=
  fragmentSet c || ['#', '?', '\x7b', '\x7d'].contains c

def userSet (c : Char) : Bool :=
  pathSet c || ['/', ':', ';', '=', '@', '[', '\\', ']', '^', '|'].contains c

/-- All but ASCII letters and digits and four marks. -/
def formSet (c : Char) : Bool :=
  !(c.isAlphanum || ['*', '-', '.', '_'].contains c)

/-- A name or value of a form. -/
def formEncode (cs : List Char) : List Char :=
  cs.flatMap fun c => if c = ' ' then ['+'] else percentEncode formSet [c]

/-- The query that holds the pairs of a form in order. -/
def formQuery (pairs : List (String × String)) : String :=
  "&".intercalate (pairs.map fun (name, value) =>
    String.ofList (formEncode name.toList ++ '=' :: formEncode value.toList))

/-- The bytes that a text spells, a percent sign without two digits after it standing for itself. -/
def percentDecode : List Char → List UInt8
  | [] => []
  | '%' :: a :: b :: r =>
    match Text.radixValue? 16 [a, b] with
    | some n => n.toUInt8 :: percentDecode r
    | none => bytes ['%'] ++ percentDecode (a :: b :: r)
  | c :: r => String.utf8EncodeChar c ++ percentDecode r
termination_by cs => cs.length

end Telemetry.Url
