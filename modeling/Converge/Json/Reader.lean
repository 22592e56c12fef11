import Converge.Json.Document

/-! Reading JSON text. Every text gives a document; what is wrong with the text is in the document.
Nothing is read behind a fault that cannot be skipped. -/
namespace Converge.Json

abbrev Reading (α : Type) := α × List Char

namespace Reader

def skipSpace (text : List Char) : List Char :=
  text.dropWhile fun c => c = ' ' || c = '\n' || c = '\t' || c = '\r'

def word (shape : Shape) (value : Document) : List Char → List Char → Reading Document
  | [], text => (value, text)
  | _ :: _, [] => (.spoilt shape .endOfValue (some .endOfValue), [])
  | expected :: more, c :: text =>
    if c = expected then word shape value more text
    else (.spoilt shape .expectedWord (some .expectedWord), [])

def hexDigit? (c : Char) : Option Nat :=
  if c.isDigit then some (c.toNat - 48)
  else if 'a' ≤ c ∧ c ≤ 'f' then some (c.toNat - 87)
  else if 'A' ≤ c ∧ c ≤ 'F' then some (c.toNat - 55)
  else none

def utf8Length (text : List Char) : Nat := text.foldl (fun length c => length + c.utf8Size) 0

def unreadBytes : Nat → List Char → Nat
  | _, [] => 0
  | count, c :: rest =>
    if c.utf8Size < count then unreadBytes (count - c.utf8Size) rest else c.utf8Size - count

/-- Reads the four digits of an escape. Four bytes are read, whatever they are; the text counts as
cut off if fewer are left. -/
def hexEscape (text : List Char) : Except Defect (Reading Nat) :=
  let invalid : Defect := .invalidEscape (unreadBytes 4 text)
  if utf8Length (text.take 4) < 4 then .error .endOfString
  else match text with
    | a :: b :: c :: d :: rest =>
      match hexDigit? a, hexDigit? b, hexDigit? c, hexDigit? d with
      | some a, some b, some c, some d => .ok (((a * 16 + b) * 16 + c) * 16 + d, rest)
      | _, _, _, _ => .error invalid
    | _ => .error invalid

def shortEscape? : Char → Option Char
  | '"' => some '"'
  | '\\' => some '\\'
  | '/' => some '/'
  | 'b' => some '\x08'
  | 'f' => some '\x0c'
  | 'n' => some '\n'
  | 'r' => some '\r'
  | 't' => some '\t'
  | _ => none

def lowSurrogate (high : Nat) (text : List Char) : Except Defect (Reading Char) :=
  match text with
  | [] => .error .endOfString
  | '\\' :: [] => .error .endOfString
  | '\\' :: 'u' :: rest => do
    let (low, rest) ← hexEscape rest
    if 0xDC00 ≤ low ∧ low ≤ 0xDFFF then
      pure (Char.ofNat (0x10000 + (high - 0xD800) * 0x400 + (low - 0xDC00)), rest)
    else .error .unpairedSurrogate
  | _ => .error .missingEscape

def escape (text : List Char) : Except Defect (Reading Char) :=
  match text with
  | [] => .error .endOfString
  | 'u' :: rest => do
    let (unit, rest) ← hexEscape rest
    if 0xDC00 ≤ unit ∧ unit ≤ 0xDFFF then .error .unpairedSurrogate
    else if 0xD800 ≤ unit ∧ unit ≤ 0xDBFF then lowSurrogate unit rest
    else pure (Char.ofNat unit, rest)
  | c :: rest =>
    match shortEscape? c with
    | some meant => .ok (meant, rest)
    | none => .error (.invalidEscape (unreadBytes 1 [c]))

def skipEscape (text : List Char) : Except Defect (List Char) :=
  match text with
  | [] => .error .endOfString
  | 'u' :: rest => do
    let (_, rest) ← hexEscape rest
    pure rest
  | c :: rest =>
    if (shortEscape? c).isSome then .ok rest else .error (.invalidEscape (unreadBytes 1 [c]))

/-- Reads a string behind its opening quote. The characters come out in reverse. -/
def stringBody : Nat → List Char → List Char → Except Defect (Reading (List Char))
  | 0, _, _ => .error .endOfString
  | _ + 1, _, [] => .error .endOfString
  | fuel + 1, found, c :: rest =>
    if c = '"' then .ok (found, rest)
    else if c = '\\' then do
      let (meant, rest) ← escape rest
      stringBody fuel (meant :: found) rest
    else if c.toNat < 0x20 then .error .controlCharacter
    else stringBody fuel (c :: found) rest

def skipString : Nat → List Char → Except Defect (List Char)
  | 0, _ => .error .endOfString
  | _ + 1, [] => .error .endOfString
  | fuel + 1, c :: rest =>
    if c = '"' then .ok rest
    else if c = '\\' then do skipString fuel (← skipEscape rest)
    else if c.toNat < 0x20 then .error .skippedControl
    else skipString fuel rest

def string (fuel : Nat) (text : List Char) : Reading Document :=
  match stringBody fuel [] text with
  | .ok (found, rest) => (.string (String.ofList found.reverse), rest)
  | .error wanted =>
    match skipString fuel text with
    | .ok rest => (.spoilt .string wanted none, rest)
    | .error skipped => (.spoilt .string wanted (some skipped), [])

/-- The number ends too early. For those who skip it that is no different from any other fault. -/
def cutOff : Reading Document := (.spoilt .other .endOfValue (some .unfinishedNumber), [])

def noNumber : Reading Document := (.spoilt .other .invalidNumber (some .invalidNumber), [])

def digits (text : List Char) : Reading (List Char) :=
  (text.takeWhile Char.isDigit, text.dropWhile Char.isDigit)

def finish (literal : Literal) (rest : List Char) : Reading Document :=
  match literal.number? with
  | some number => (.number number, rest)
  | none =>
    (.spoilt .other (if literal.isBeyond then .exponentOutOfRange else .numberOutOfRange) none, rest)

def exponent (literal : Literal) (text : List Char) : Reading Document :=
  let (negative, text) := match text with
    | '-' :: rest => (true, rest)
    | '+' :: rest => (false, rest)
    | _ => (false, text)
  match text with
  | [] => cutOff
  | c :: _ =>
    if c.isDigit then
      let (found, rest) := digits text
      finish { literal with exponent := some (negative, found) } rest
    else noNumber

def afterDigits (literal : Literal) (text : List Char) : Reading Document :=
  match text with
  | 'e' :: rest => exponent literal rest
  | 'E' :: rest => exponent literal rest
  | _ => finish literal text

def number (negative : Bool) (text : List Char) : Reading Document :=
  let (whole, rest) := digits text
  let literal : Literal := ⟨negative, whole, [], none⟩
  match whole, rest with
  | [], [] => cutOff
  | [], _ :: _ => noNumber
  | '0' :: _ :: _, _ => noNumber
  | _, '.' :: rest =>
    let (fraction, rest) := digits rest
    match fraction, rest with
    | [], [] => cutOff
    | [], _ :: _ => noNumber
    | _, _ => afterDigits { literal with fraction } rest
  | _, _ => afterDigits literal rest

mutual

def value : Nat → List Char → Reading Document
  | 0, _ => (.missing .endOfValue, [])
  | fuel + 1, text =>
    match skipSpace text with
    | [] => (.missing .endOfValue, [])
    | '"' :: rest => string fuel rest
    | '[' :: rest =>
      let (found, rest) := items fuel true rest
      (.array found, rest)
    | '{' :: rest =>
      let (found, rest) := members fuel true rest
      (.object found, rest)
    | 'n' :: rest => word .null .null ['u', 'l', 'l'] rest
    | 't' :: rest => word .other (.bool true) ['r', 'u', 'e'] rest
    | 'f' :: rest => word .other (.bool false) ['a', 'l', 's', 'e'] rest
    | '-' :: rest => number true rest
    | c :: rest =>
      if c.isDigit then number false (c :: rest) else (.missing .expectedValue, [])

/-- Reads the rest of an array, which starts with a value if it is the first one and with a comma
otherwise. -/
def items : Nat → Bool → List Char → Reading Items
  | 0, _, _ => (.broken .endOfList, [])
  | fuel + 1, first, text =>
    match skipSpace text with
    | [] => (.broken .endOfList, [])
    | c :: rest =>
      if c = ']' then (.closed, rest)
      else if first || c = ',' then
        match if first then c :: rest else skipSpace rest with
        | ']' :: _ => (.broken .trailingComma, [])
        | rest =>
          let (found, rest) := value fuel rest
          let (others, rest) := items fuel false rest
          (.item found others, rest)
      else (.broken .expectedItem, [])

def members : Nat → Bool → List Char → Reading Members
  | 0, _, _ => (.broken .endOfObject, [])
  | fuel + 1, first, text =>
    match skipSpace text with
    | [] => (.broken .endOfObject, [])
    | c :: rest =>
      if c = '}' then (.closed, rest)
      else if first || c = ',' then
        match if first then c :: rest else skipSpace rest with
        | [] => (.broken .endOfValue, [])
        | '"' :: rest =>
          let (key, rest) := string fuel rest
          let (found, rest) := match skipSpace rest with
            | [] => (.missing .endOfObject, [])
            | ':' :: rest => value fuel rest
            | _ :: _ => (.missing .expectedColon, [])
          let (others, rest) := members fuel false rest
          (.member key found others, rest)
        | c :: _ => (.broken (if c = '}' then .trailingComma else .keyNotString), [])
      else (.broken .expectedMember, [])

end

end Reader

structure Source where
  document : Document
  trailing : Bool

/-- Reads a text. Two units of fuel for each character are enough: no character starts more than one
value and one list of values. -/
def read (text : String) : Source :=
  let chars := text.toList
  let (document, rest) := Reader.value (2 * chars.length + 2) chars
  ⟨document, !(Reader.skipSpace rest).isEmpty⟩

end Converge.Json
