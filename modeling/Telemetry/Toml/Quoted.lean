import Telemetry.Text.Radix

/-!
# Quoted texts of TOML

Double quotes allow escapes and single quotes none. Three quotes open a text of several lines, whose
first line end does not count and whose line ends are all written alike.
-/

namespace Telemetry.Toml

/-- No control character but the tab. -/
def plainChar (c : Char) : Bool :=
  c = '\t' || (0x20 ≤ c.toNat && c.toNat ≠ 0x7F)

def isGap (c : Char) : Bool :=
  c = ' ' || c = '\t'

/-- The character that an escape of one letter stands for. -/
def escaped? : Char → Option Char
  | 'b' => some '\x08'
  | 't' => some '\t'
  | 'n' => some '\n'
  | 'f' => some '\x0c'
  | 'r' => some '\r'
  | '"' => some '"'
  | '\\' => some '\\'
  | _ => none

/-- Puts a character in front of what was read. -/
def also (c : Char) : Option (List Char × List Char) → Option (List Char × List Char) :=
  Option.map fun (cs, rest) => (c :: cs, rest)

/-- Reads on up to a double quote. -/
def readQuoted : List Char → Option (List Char × List Char)
  | [] => none
  | '"' :: r => some ([], r)
  | '\\' :: 'u' :: a :: b :: c :: d :: r =>
    (Text.codeChar? [a, b, c, d]).bind fun x => also x (readQuoted r)
  | '\\' :: 'U' :: a :: b :: c :: d :: e :: f :: g :: h :: r =>
    (Text.codeChar? [a, b, c, d, e, f, g, h]).bind fun x => also x (readQuoted r)
  | '\\' :: c :: r => (escaped? c).bind fun x => also x (readQuoted r)
  | c :: r => if plainChar c && c ≠ '\\' then also c (readQuoted r) else none

/-- Reads on up to a single quote. -/
def readLiteral : List Char → Option (List Char × List Char)
  | [] => none
  | '\'' :: r => some ([], r)
  | c :: r => if plainChar c then also c (readLiteral r) else none

/-- Only gaps stand before the end of the line. -/
def endsLine (cs : List Char) : Bool :=
  match cs.dropWhile isGap with
  | '\n' :: _ | '\r' :: '\n' :: _ => true
  | _ => false

/-- Reads on up to three double quotes; up to two more belong to the text. A backslash at the end of
a line drops what follows up to the next character that shows; `skip` tells that this goes on. -/
def readLongQuoted (skip : Bool) : List Char → Option (List Char × List Char)
  | [] => none
  | '"' :: '"' :: '"' :: '"' :: '"' :: r => some (['"', '"'], r)
  | '"' :: '"' :: '"' :: '"' :: r => some (['"'], r)
  | '"' :: '"' :: '"' :: r => some ([], r)
  | '\r' :: '\n' :: r => if skip then readLongQuoted true r else also '\n' (readLongQuoted false r)
  | '\n' :: r => if skip then readLongQuoted true r else also '\n' (readLongQuoted false r)
  | '\\' :: 'u' :: a :: b :: c :: d :: r =>
    (Text.codeChar? [a, b, c, d]).bind fun x => also x (readLongQuoted false r)
  | '\\' :: 'U' :: a :: b :: c :: d :: e :: f :: g :: h :: r =>
    (Text.codeChar? [a, b, c, d, e, f, g, h]).bind fun x => also x (readLongQuoted false r)
  | '\\' :: c :: r =>
    if endsLine (c :: r) then readLongQuoted true (c :: r)
    else (escaped? c).bind fun x => also x (readLongQuoted false r)
  | c :: r =>
    if skip && isGap c then readLongQuoted true r
    else if plainChar c && c ≠ '\\' then also c (readLongQuoted false r)
    else none

/-- Reads on up to three single quotes; up to two more belong to the text. -/
def readLongLiteral : List Char → Option (List Char × List Char)
  | [] => none
  | '\'' :: '\'' :: '\'' :: '\'' :: '\'' :: r => some (['\'', '\''], r)
  | '\'' :: '\'' :: '\'' :: '\'' :: r => some (['\''], r)
  | '\'' :: '\'' :: '\'' :: r => some ([], r)
  | '\r' :: '\n' :: r => also '\n' (readLongLiteral r)
  | '\n' :: r => also '\n' (readLongLiteral r)
  | c :: r => if plainChar c then also c (readLongLiteral r) else none

/-- Drops the end of a line that stands first. -/
def dropLineEnd : List Char → List Char
  | '\n' :: r => r
  | '\r' :: '\n' :: r => r
  | cs => cs

/-- Reads a text in quotes of any kind. -/
def readText : List Char → Option (List Char × List Char)
  | '"' :: '"' :: '"' :: r => readLongQuoted false (dropLineEnd r)
  | '"' :: r => readQuoted r
  | '\'' :: '\'' :: '\'' :: r => readLongLiteral (dropLineEnd r)
  | '\'' :: r => readLiteral r
  | _ => none

def bareChar (c : Char) : Bool :=
  c.isAlphanum || c = '_' || c = '-'

/-- Reads a name between the dots of a key. -/
def readName : List Char → Option (List Char × List Char)
  | '"' :: r => readQuoted r
  | '\'' :: r => readLiteral r
  | cs =>
    let name := cs.takeWhile bareChar
    if name.isEmpty then none else some (name, cs.dropWhile bareChar)

end Telemetry.Toml
