import Converge.Decimal.Shortest
import Converge.Text.Blank

/-! Numbers in JSON text. A literal without point and exponent that fits 64 bits is an integer;
any other literal is a double, computed from at most nineteen or twenty digits and a power of
ten. -/
namespace Converge.Json

inductive Number where
  | integer (value : Int)
  | decimal (value : Float)
deriving Inhabited

structure Literal where
  negative : Bool
  whole : List Char
  fraction : List Char
  /-- Sign and digits of the exponent, if there is one. -/
  exponent : Option (Bool × List Char)
deriving Inhabited

namespace Literal

def largest : Nat := Nat.pow 2 64 - 1

/-- Takes digits as long as the significand fits 64 bits, and returns the digits left over. -/
def gather : Nat → List Char → Nat × List Char
  | significand, [] => (significand, [])
  | significand, c :: rest =>
    let next := significand * 10 + (Text.digit? c).getD 0
    if largest < next then (significand, c :: rest) else gather next rest

def integer? (literal : Literal) : Option Int :=
  if literal.fraction.isEmpty && literal.exponent.isNone then
    let value := Text.digitsValue literal.whole
    if literal.negative then
      if value ≠ 0 ∧ value ≤ Nat.pow 2 63 then some (-(value : Int)) else none
    else if value ≤ largest then some value else none
  else none

def significand (literal : Literal) : Nat × Int :=
  let (whole, dropped) := gather 0 literal.whole
  let (value, beyond) := gather whole literal.fraction
  (value, (dropped.length : Int) - (literal.fraction.length - beyond.length : Nat))

/-- Scales in steps of at most 308 tens. Too large a number is refused; too small a one is zero. -/
def scaled : Nat → Float → Int → Option Float
  | 0, value, _ => some value
  | fuel + 1, value, tens =>
    if tens.natAbs ≤ 308 then
      let power := Float.ofScientific 1 false tens.natAbs
      if 0 ≤ tens then
        let product := value * power
        if product.isInf then none else some product
      else some (value / power)
    else if value == 0.0 then some value
    else if 0 ≤ tens then none
    else scaled fuel (value / Float.ofScientific 1 false 308) (tens + 308)

def largestExponent : Nat := Nat.pow 2 31 - 1

def isBeyond (literal : Literal) : Bool :=
  literal.exponent.any fun exponent => largestExponent < Text.digitsValue exponent.2

def decimal? (literal : Literal) : Option Float :=
  let (value, tens) := literal.significand
  let signed (magnitude : Float) : Float := if literal.negative then -magnitude else magnitude
  match literal.exponent with
  | none => (scaled 100 value.toFloat tens).map signed
  | some (negative, digits) =>
    let exponent := Text.digitsValue digits
    if largestExponent < exponent then
      if value ≠ 0 ∧ !negative then none else some (signed 0.0)
    else
      let total := if negative then tens - exponent else tens + exponent
      -- A double has no more than 800 tens, either way.
      let bounded := max (-100000) (min 100000 total)
      (scaled 1000 value.toFloat bounded).map signed

/-- What a literal stands for, unless it is too large. -/
def number? (literal : Literal) : Option Number :=
  match literal.integer? with
  | some value => some (.integer value)
  | none => literal.decimal?.map .decimal

end Literal

namespace Number

/-- Positional from a hundred-thousandth up to sixteen places before the point, otherwise with an
exponent, which has a sign. There is a point or an exponent in any case. -/
def decimalText (value : Float) : String :=
  let sign := if value.toBits.toNat / Nat.pow 2 63 = 1 then "-" else ""
  let found := Decimal.shortest (Decimal.Binary.ofBits value.toBits.toNat)
  let digits := Nat.toDigits 10 found.digits
  let point := (digits.length : Int) + found.exponent
  let body :=
    if found.digits = 0 then ['0', '.', '0']
    else if 0 ≤ found.exponent ∧ point ≤ 16 then
      digits ++ List.replicate found.exponent.toNat '0' ++ ['.', '0']
    else if 0 < point ∧ point ≤ 16 then
      digits.take point.toNat ++ '.' :: digits.drop point.toNat
    else if -5 < point ∧ point ≤ 0 then
      '0' :: '.' :: List.replicate (-point).toNat '0' ++ digits
    else
      let tail := 'e' :: (if 0 < point then '+' else '-') :: Nat.toDigits 10 (point - 1).natAbs
      match digits with
      | [digit] => digit :: tail
      | first :: others => first :: '.' :: others ++ tail
      | [] => tail
  sign ++ String.ofList body

def text : Number → String
  | .integer value => toString value
  | .decimal value => decimalText value

end Number

end Converge.Json
