import Telemetry.Text.Cut
import Telemetry.Text.Decimal
import Telemetry.Url.Domain
import Telemetry.Url.Error
import Telemetry.Url.Percent

/-!
# Hosts

A host is an address of version 4 or 6, a domain, or a text that no rule of domains applies to.
Domains are kept in ASCII. A domain whose last label is a number must be an address of version 4,
whose numbers may be decimal, octal or hexadecimal.
-/

namespace Telemetry.Url

inductive Host where
  | domain (name : String)
  | ipv4 (address : Nat)
  /-- Eight pieces of sixteen bits. -/
  | ipv6 (pieces : List Nat)
  deriving DecidableEq, Repr

namespace Host

/-! ## Version 4 -/

/-- Reads a number of an address; the radix is told by a leading zero. -/
def readNumber? : List Char → Option Nat
  | [] => none
  | '0' :: 'x' :: r | '0' :: 'X' :: r => if r.isEmpty then some 0 else Text.radixValue? 16 r
  | '0' :: c :: r => Text.radixValue? 8 (c :: r)
  | cs => Text.radixValue? 10 cs

/-- The labels of a domain, without the empty one after a last dot. -/
def labels (cs : List Char) : List (List Char) :=
  match (Text.cutChars '.' cs).reverse with
  | [] :: l :: ls => (l :: ls).reverse
  | ls => ls.reverse

/-- The last label is a number, also one that is malformed. -/
def endsInNumber (cs : List Char) : Bool :=
  match (labels cs).getLast? with
  | none => false
  | some l => (!l.isEmpty && l.all Char.isDigit) || (readNumber? l).isSome

/-- The address that one to four numbers spell: all but the last are bytes, and the last fills the
bytes that are left. -/
def addressOf? (numbers : List Nat) : Option Nat :=
  match numbers.reverse with
  | [] => none
  | last :: front =>
    if 3 < front.length ∨ Nat.pow 256 (4 - front.length) ≤ last ∨ front.any (255 < ·) then none
    else some (numbers.dropLast.foldl (fun a n => a * 256 + n) 0 * Nat.pow 256 (4 - front.length) + last)

def readIpv4? (cs : List Char) : Option Nat :=
  ((labels cs).mapM readNumber?).bind addressOf?

def ipv4Text (address : Nat) : String :=
  ".".intercalate ([3, 2, 1, 0].map fun i => Text.natText (address / Nat.pow 256 i % 256))

/-! ## Version 6 -/

/-- A number up to 255 without leading zeros. -/
def readByte? (cs : List Char) : Option Nat :=
  match cs with
  | '0' :: _ :: _ => none
  | cs => (Text.radixValue? 10 cs).filter (· ≤ 255)

/-- The two pieces that an address of version 4 makes. -/
def readTail? (cs : List Char) : Option (List Nat) :=
  match (Text.cutChars '.' cs).mapM readByte? with
  | some [a, b, c, d] => some [a * 256 + b, c * 256 + d]
  | _ => none

def readPiece? (cs : List Char) : Option Nat :=
  if 4 < cs.length then none else Text.radixValue? 16 cs

/-- The pieces between colons; the last part may be an address of version 4 if `tail`. -/
def readPieces? (tail : Bool) : List (List Char) → Option (List Nat)
  | [] => some []
  | [p] => if tail && p.contains '.' then readTail? p else (readPiece? p).map ([·])
  | p :: q :: ps => do
    let n ← readPiece? p
    let ns ← readPieces? tail (q :: ps)
    pure (n :: ns)

/-- The pieces of a half of an address; an empty half has none. -/
def readHalf? (tail : Bool) (cs : List Char) : Option (List Nat) :=
  if cs.isEmpty then some [] else readPieces? tail (Text.cutChars ':' cs)

/-- Before and after the first two colons in a row. -/
def cutDoubleColon : List Char → Option (List Char × List Char)
  | [] => none
  | ':' :: ':' :: r => some ([], r)
  | c :: r => (cutDoubleColon r).map fun (a, b) => (c :: a, b)

/-- Two colons in a row stand for at least one piece of zero. -/
def readIpv6? (cs : List Char) : Option (List Nat) :=
  match cutDoubleColon cs with
  | none => (readHalf? true cs).filter (·.length = 8)
  | some (a, b) => do
    let front ← readHalf? false a
    let back ← readHalf? true b
    if front.length + back.length ≤ 7 then
      some (front ++ List.replicate (8 - front.length - back.length) 0 ++ back)
    else none

/-- Where the longest run of zeros begins and its length, the first of several. -/
def zeroRun (pieces : List Nat) : Nat × Nat :=
  (List.range pieces.length).foldl (fun best i =>
    let n := ((pieces.drop i).takeWhile (· = 0)).length
    if best.2 < n then (i, n) else best) (0, 0)

def ipv6Text (pieces : List Nat) : String :=
  let write (ps : List Nat) : String :=
    ":".intercalate (ps.map fun p => String.ofList (Text.hexText p))
  let (start, length) := zeroRun pieces
  if length < 2 then write pieces
  else write (pieces.take start) ++ "::" ++ write (pieces.drop (start + length))

/-! ## Hosts -/

/-- Characters that no host may hold. -/
def forbidden (c : Char) : Bool :=
  ['\x00', '\t', '\n', '\r', ' ', '#', '/', ':', '<', '>', '?', '@', '[', '\\', ']', '^', '|'].contains
    c

/-- Reads a host in brackets. -/
def readBracketed (cs : List Char) : Except Error Host :=
  if cs.getLast? = some ']' then
    match readIpv6? cs.dropLast with
    | some pieces => .ok (.ipv6 pieces)
    | none => .error .ipv6
  else .error .ipv6

/-- Reads the host of a URL whose scheme has domains. -/
def read (cs : List Char) : Except Error Host :=
  match cs with
  | '[' :: r => readBracketed r
  | cs =>
    match String.fromUTF8? ⟨(percentDecode cs).toArray⟩ with
    | none => .error .internationalName
    | some s =>
      match Domain.ascii? s.toList with
      | none => .error .internationalName
      | some [] => .error .emptyHost
      | some name =>
        if endsInNumber name then
          match readIpv4? name with
          | some address => .ok (.ipv4 address)
          | none => .error .ipv4
        else .ok (.domain (String.ofList name))

/-- Reads the host of a URL whose scheme is unknown. -/
def readVerbatim (cs : List Char) : Except Error Host :=
  match cs with
  | '[' :: r => readBracketed r
  | cs =>
    if cs.any forbidden then .error .domainCharacter
    else .ok (.domain (String.ofList (percentEncode controlSet cs)))

def text : Host → String
  | domain name => name
  | ipv4 address => ipv4Text address
  | ipv6 pieces => "[" ++ ipv6Text pieces ++ "]"

end Host

end Telemetry.Url
