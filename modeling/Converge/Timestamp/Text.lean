import Converge.Text.Blank
import Converge.Timestamp

/-! Instants as text, after RFC 3339. What is written is always universal time, with as few of
0, 3, 6 or 9 fraction digits as lose nothing. Reading is laxer: any offset, signed years, one
digit where two are usual, blanks around the parts, a blank in place of the `T`. -/
namespace Converge.Timestamp

open Converge.Text

/-- Four digits from the year 0 to 9999, a sign and at least four digits outside. -/
def yearText (year : Int) : List Char :=
  if 0 ≤ year ∧ year ≤ 9999 then padded 4 year.toNat
  else (if year < 0 then '-' else '+') :: padded 4 year.natAbs

def fractionText (nanosecond : Nat) : List Char :=
  if nanosecond = 0 then []
  else if nanosecond % 1000000 = 0 then '.' :: padded 3 (nanosecond / 1000000)
  else if nanosecond % 1000 = 0 then '.' :: padded 6 (nanosecond / 1000)
  else '.' :: padded 9 nanosecond

def text (instant : Timestamp) : String :=
  String.ofList <|
    yearText instant.date.year ++ '-' :: padded 2 instant.date.month ++
    '-' :: padded 2 instant.date.day ++ 'T' :: padded 2 instant.hour ++
    ':' :: padded 2 instant.minute ++ ':' :: padded 2 instant.second ++
    fractionText instant.nanosecond ++ ['Z']

inductive Fault where
  | tooShort
  | tooLong
  | invalid
  | outOfRange
  /-- The offset leads out of the calendar. -/
  | impossible
deriving DecidableEq, Inhabited

namespace Fault

def message : Fault → String
  | .tooShort => "premature end of input"
  | .tooLong => "trailing input"
  | .invalid => "input contains invalid characters"
  | .outOfRange => "input is out of range"
  | .impossible => "no possible date and time matching input"

end Fault

abbrev Part (α : Type) := List Char → Except Fault (α × List Char)

def readNumber (width : Option Nat) : Part Nat := fun text =>
  let digits := (match width with
    | some most => text.take most
    | none => text).takeWhile Char.isDigit
  match digits, text with
  | [], [] => .error .tooShort
  | [], _ :: _ => .error .invalid
  | _, _ => .ok (digitsValue digits, text.drop digits.length)

/-- With a sign any number of digits may follow, else at most four. The year fits 32 bits. -/
def readYear : Part Int := fun text => do
  let (year, rest) ← match skipBlanks text with
    | '-' :: rest => (readNumber none rest).map fun (year, rest) => (-(year : Int), rest)
    | '+' :: rest => (readNumber none rest).map fun (year, rest) => ((year : Int), rest)
    | rest => (readNumber (some 4) rest).map fun (year, rest) => ((year : Int), rest)
  if -(Nat.pow 2 31 : Int) ≤ year ∧ year < Nat.pow 2 31 then pure (year, rest)
  else .error .outOfRange

def readPair (least most : Nat) : Part Nat := fun text => do
  let (value, rest) ← readNumber (some 2) (skipBlanks text)
  if least ≤ value ∧ value ≤ most then pure (value, rest) else .error .outOfRange

def readMark (mark : Char) (text : List Char) : Except Fault (List Char) :=
  match skipBlanks text with
  | c :: rest => if c = mark then .ok rest else .error .invalid
  | [] => .error .tooShort

def readFraction : Part Nat := fun text =>
  match text with
  | '.' :: rest =>
    (readNumber (some 9) rest).map fun (value, after) =>
      (value * Nat.pow 10 (9 - (rest.length - after.length)), after.dropWhile Char.isDigit)
  | _ => .ok (0, text)

/-- Two digits, of which the first is below a bound. The text counts as too short if fewer than two
bytes are left. -/
def readTwoDigits (bound : Nat) : Part Nat := fun text =>
  if (String.ofList text).utf8ByteSize < 2 then .error .tooShort
  else match text with
    | tens :: units :: rest =>
      match digit? tens, digit? units with
      | some tens, some units =>
        if tens < bound then .ok (10 * tens + units, rest) else .error .outOfRange
      | _, _ => .error .invalid
    | _ => .error .invalid

def readOffset : Part Int := fun text =>
  match skipBlanks text with
  | [] => .error .tooShort
  | sign :: rest =>
    if sign = 'Z' ∨ sign = 'z' then .ok (0, rest)
    else if (sign :: rest.take 2).map Char.toUpper = ['U', 'T', 'C'] then .ok (0, rest.drop 2)
    else if sign ≠ '+' ∧ sign ≠ '-' ∧ sign ≠ '\u2212' then .error .invalid
    else do
      let (hours, rest) ← readTwoDigits 10 rest
      let (minutes, rest) ← readTwoDigits 6 (rest.dropWhile fun c => c = ':' || isBlank c)
      let east : Int := hours * 60 + minutes
      pure (if sign = '+' then east else -east, rest)

/-- Reads an instant and brings it to universal time. Each part is checked where it stands; whether
there is such a day and such an offset is asked at the end. -/
def read (source : String) : Except Fault Timestamp := do
  let (year, text) ← readYear source.toList
  let text ← readMark '-' text
  let (month, text) ← readPair 1 12 text
  let text ← readMark '-' text
  let (day, text) ← readPair 1 31 text
  let text ← match text with
    | c :: rest => if c = 'T' ∨ c = 't' ∨ c = ' ' then .ok rest else .error .invalid
    | [] => .error .tooShort
  let (hour, text) ← readPair 0 23 text
  let text ← readMark ':' text
  let (minute, text) ← readPair 0 59 text
  let text ← readMark ':' text
  let (second, text) ← readPair 0 60 text
  let (nanosecond, text) ← readFraction text
  let (east, text) ← readOffset text
  if !(skipBlanks text).isEmpty then .error .tooLong
  else
    let instant := (Date.of? year month day).bind fun date =>
      of? date hour minute second nanosecond
    match instant with
    | none => .error .outOfRange
    | some instant =>
      if 1440 ≤ east.natAbs then .error .outOfRange
      else match instant.shift? (-east) with
        | none => .error .impossible
        | some instant => .ok instant

def read? (source : String) : Option Timestamp := (read source).toOption

end Converge.Timestamp
