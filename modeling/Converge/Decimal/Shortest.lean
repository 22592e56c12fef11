/-! The shortest decimal that reads back as a given double. Everything is exact arithmetic on the
bits: a decimal reads back as a double if it lies between the midpoints to the two neighbours, and
the midpoints count if the significand is even. -/
namespace Converge.Decimal

/-- A finite double without its sign: `significand * 2 ^ exponent`. -/
structure Binary where
  significand : Nat
  exponent : Int
  /-- The neighbour below is half as far away as the one above. -/
  narrowBelow : Bool
deriving DecidableEq

structure Scientific where
  digits : Nat
  exponent : Int
deriving DecidableEq

namespace Binary

/-- Reads the eleven bits of the exponent and the 52 bits of the fraction. -/
def ofBits (bits : Nat) : Binary :=
  let fraction : Nat := bits % Nat.pow 2 52
  let biased : Nat := bits / Nat.pow 2 52 % Nat.pow 2 11
  if biased = 0 then ⟨fraction, -1074, false⟩
  else ⟨fraction + Nat.pow 2 52, (biased : Int) - 1075, fraction = 0 && 1 < biased⟩

/-- Numerator and denominator of `factor * 2 ^ exponent` over `10 ^ tens`. -/
def overTens (factor : Nat) (exponent tens : Int) : Nat × Nat :=
  (factor * Nat.pow 2 exponent.toNat * Nat.pow 10 (-tens).toNat,
    Nat.pow 2 (-exponent).toNat * Nat.pow 10 tens.toNat)

/-- The decimal lies in the interval of the numbers that round to this double. -/
def accepts (value : Binary) (decimal : Scientific) : Bool :=
  let quarter := value.exponent - 2
  let low := overTens (4 * value.significand - if value.narrowBelow then 1 else 2) quarter
    decimal.exponent
  let high := overTens (4 * value.significand + 2) quarter decimal.exponent
  if value.significand % 2 = 0 then
    low.1 ≤ decimal.digits * low.2 && decimal.digits * high.2 ≤ high.1
  else low.1 < decimal.digits * low.2 && decimal.digits * high.2 < high.1

/-- The nearer of the two neighbours on a decimal grid that are accepted; the even one if both are
equally near. -/
def onGrid? (value : Binary) (tens : Int) : Option Scientific :=
  let (num, den) := overTens value.significand value.exponent tens
  let below : Scientific := ⟨num / den, tens⟩
  let above : Scientific := ⟨num / den + 1, tens⟩
  let twice := 2 * (num % den)
  let aboveFirst := den < twice || (twice = den && below.digits % 2 = 1)
  match value.accepts below, value.accepts above with
  | true, true => some (if aboveFirst then above else below)
  | true, false => some below
  | false, true => some above
  | false, false => none

def scale (value : Binary) : Int :=
  let above (tens : Int) : Bool :=
    let (num, den) := overTens value.significand value.exponent tens
    num < den
  (((List.range 640).map fun i : Nat => (i : Int) - 330).find? above).getD 310

end Binary

namespace Scientific

def trim : Nat → Scientific → Scientific
  | 0, decimal => decimal
  | fuel + 1, decimal =>
    if decimal.digits ≠ 0 ∧ decimal.digits % 10 = 0 then
      trim fuel ⟨decimal.digits / 10, decimal.exponent + 1⟩
    else decimal

end Scientific

/-- The fewest digits that read back. Seventeen always suffice. -/
def shortest (value : Binary) : Scientific :=
  if value.significand = 0 then ⟨0, 0⟩
  else
    let scale := value.scale
    let found := (List.range 17).findSome? fun i : Nat => value.onGrid? (scale - (i + 1))
    match found with
    | some decimal => decimal.trim 17
    | none =>
      if 0 ≤ value.exponent then ⟨value.significand * Nat.pow 2 value.exponent.toNat, 0⟩
      else ⟨value.significand * Nat.pow 5 (-value.exponent).toNat, value.exponent⟩

end Converge.Decimal
