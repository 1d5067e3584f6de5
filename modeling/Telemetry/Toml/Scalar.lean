import Telemetry.Text.Cut
import Telemetry.Toml.Basic
import Telemetry.Toml.Quoted

/-!
# Words of TOML

A value without quotes or brackets is one word: a truth value, a number, or a date, a time or both.
Underscores may stand between the digits of a number. Whole numbers have 64 bits and a sign.
-/

namespace Telemetry.Toml

/-- The digits without the underscores, each of which stands between two digits. -/
def digits? (radix : Nat) (cs : List Char) : Option (List Char) :=
  let groups := Text.cutChars '_' cs
  if groups.all fun g => !g.isEmpty && g.all (Text.isDigitBelow radix) then some groups.flatten
  else none

/-- Decimal digits of which only a single one is a leading zero. -/
def wholeDigits? (cs : List Char) : Option (List Char) :=
  (digits? 10 cs).filter fun ds => ds.head? ≠ some '0' || ds.length = 1

/-- Whether a sign is minus, and what follows the sign. -/
def cutSign : List Char → Bool × List Char
  | '-' :: r => (true, r)
  | '+' :: r => (false, r)
  | cs => (false, cs)

def fitsWord (i : Int) : Bool :=
  Int64.minValue.toInt ≤ i && i ≤ Int64.maxValue.toInt

/-- Reads a whole number; only decimal ones may have a sign. -/
def whole? (cs : List Char) : Option Int :=
  let inRadix (radix : Nat) (r : List Char) : Option Int :=
    ((digits? radix r).bind (Text.radixValue? radix)).map Int.ofNat
  let value := match cs with
    | '0' :: 'x' :: r => inRadix 16 r
    | '0' :: 'o' :: r => inRadix 8 r
    | '0' :: 'b' :: r => inRadix 2 r
    | cs =>
      let (minus, r) := cutSign cs
      ((wholeDigits? r).bind (Text.radixValue? 10)).map fun n => if minus then -(n : Int) else n
  value.filter fitsWord

/-- Before the first of some marks, and what follows it. -/
def cutAny (marks : List Char) (cs : List Char) : List Char × Option (List Char) :=
  match cs.dropWhile (!marks.contains ·) with
  | [] => (cs, none)
  | _ :: r => (cs.takeWhile (!marks.contains ·), some r)

/-- A number with a fraction, an exponent or both, an infinity, or no number. -/
def isReal (cs : List Char) : Bool :=
  let (_, r) := cutSign cs
  if ["inf", "nan"].contains (String.ofList r) then true
  else
    let (mantissa, exponent) := cutAny ['e', 'E'] r
    let (front, fraction) := cutAny ['.'] mantissa
    (fraction.isSome || exponent.isSome) && (wholeDigits? front).isSome &&
      fraction.all (fun f => (digits? 10 f).isSome) &&
      exponent.all (fun e => (digits? 10 (cutSign e).2).isSome)

/-- The least number that is no longer nearest to a finite one of 64 bits. -/
def firstInfinite : Nat := 2 * Nat.pow 2 1023 - Nat.pow 2 970

/-- How many digits a number of that size has before the point. -/
def infiniteDigits : Nat := 309

/-- A sequence of digits without its leading zeros. -/
def significant (ds : List Char) : List Char :=
  ds.dropWhile (· = '0')

/-- The number with the digits before and after the point, times a power of ten, is nearer to an
infinite number than to a finite one. Only the count of digits tells, if it is not the same. -/
def isBeyond (front fraction : List Char) (exponent : Int) : Bool :=
  let ds := significant (front ++ fraction)
  match Text.radixValue? 10 ds with
  | none => false
  | some n =>
    let count : Int := ds.length - fraction.length + exponent
    if count = infiniteDigits then
      firstInfinite * Nat.pow 10 (ds.length - infiniteDigits) ≤
        n * Nat.pow 10 (infiniteDigits - ds.length)
    else infiniteDigits < count

/-- A number whose value is infinite above although it is written in digits. -/
def overflows (cs : List Char) : Bool :=
  let (minus, r) := cutSign (cs.filter (· ≠ '_'))
  let (mantissa, exponent) := cutAny ['e', 'E'] r
  let (front, fraction) := cutAny ['.'] mantissa
  let (down, e) := cutSign (exponent.getD ['0'])
  let e : Int := (Text.radixValue? 10 e).getD 0
  !minus && isBeyond front (fraction.getD []) (if down then -e else e)

/-- A number of `n` digits between two bounds. -/
def field (n low high : Nat) (cs : List Char) : Bool :=
  cs.length = n && (Text.radixValue? 10 cs).any fun v => low ≤ v && v ≤ high

def isLeapYear (year : Nat) : Bool :=
  year % 4 = 0 && (year % 100 ≠ 0 || year % 400 = 0)

def monthLength (year month : Nat) : Nat :=
  if month = 2 then if isLeapYear year then 29 else 28
  else if [4, 6, 9, 11].contains month then 30
  else 31

def isDate (cs : List Char) : Bool :=
  match Text.cutChars '-' cs with
  | [y, m, d] =>
    field 4 0 9999 y && field 2 1 12 m &&
      field 2 1 (monthLength ((Text.radixValue? 10 y).getD 0) ((Text.radixValue? 10 m).getD 0)) d
  | _ => false

/-- Hours, minutes and seconds, which may have a fraction and may be the 60th. -/
def isTime (cs : List Char) : Bool :=
  match Text.cutChars ':' cs with
  | [h, m, s] =>
    let (s, fraction) := cutAny ['.'] s
    field 2 0 23 h && field 2 0 59 m && field 2 0 60 s &&
      fraction.all (fun f => !f.isEmpty && f.all Char.isDigit)
  | _ => false

/-- Hours and minutes from the meridian. -/
def isOffset (cs : List Char) : Bool :=
  match Text.cutChars ':' cs with
  | [h, m] => field 2 0 23 h && field 2 0 59 m
  | _ => false

/-- A time that may name its distance from the meridian. -/
def isZonedTime (cs : List Char) : Bool :=
  match cs.getLast? with
  | some 'Z' | some 'z' => isTime cs.dropLast
  | _ =>
    match cutAny ['+', '-'] cs with
    | (time, some offset) => isTime time && isOffset offset
    | (time, none) => isTime time

def isMoment (cs : List Char) : Bool :=
  match cutAny ['T', 't', ' '] cs with
  | (date, some time) => isDate date && isZonedTime time
  | (one, none) => isDate one || isTime one

def wordChar (c : Char) : Bool :=
  c.isAlphanum || ['+', '-', '.', '_', ':'].contains c

/-- The word that comes first. A date goes on over one space if a time follows. -/
def cutWord (cs : List Char) : List Char × List Char :=
  let word := cs.takeWhile wordChar
  match cs.dropWhile wordChar with
  | ' ' :: c :: r =>
    if isDate word && c.isDigit then
      (word ++ ' ' :: (c :: r).takeWhile wordChar, (c :: r).dropWhile wordChar)
    else (word, ' ' :: c :: r)
  | rest => (word, rest)

def ofWord? (word : List Char) : Option Toml :=
  if word = "true".toList then some (.flag true)
  else if word = "false".toList then some (.flag false)
  else
    match whole? word with
    | some i => some (.whole i)
    | none =>
      if isReal word then if overflows word then none else some (.real (String.ofList word))
      else if isMoment word then some (.moment (String.ofList word))
      else none

end Telemetry.Toml
