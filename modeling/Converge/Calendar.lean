/-! Days of the proleptic Gregorian calendar. Years run from -262143 to 262142, a span that
holds every instant the library can name; outside it there is no date. -/
namespace Converge

def isLeapYear (year : Int) : Bool :=
  year % 4 = 0 && (year % 100 ≠ 0 || year % 400 = 0)

def daysInMonth (year : Int) (month : Nat) : Nat :=
  if month = 2 then if isLeapYear year then 29 else 28
  else if month = 4 ∨ month = 6 ∨ month = 9 ∨ month = 11 then 30
  else 31

structure Date where
  year : Int
  month : Nat
  day : Nat
  yearInSpan : -262143 ≤ year ∧ year ≤ 262142
  monthInYear : 1 ≤ month ∧ month ≤ 12
  dayInMonth : 1 ≤ day ∧ day ≤ daysInMonth year month
deriving DecidableEq

namespace Date

def of? (year : Int) (month day : Nat) : Option Date :=
  if h : (-262143 ≤ year ∧ year ≤ 262142) ∧ (1 ≤ month ∧ month ≤ 12) ∧
      (1 ≤ day ∧ day ≤ daysInMonth year month) then
    some ⟨year, month, day, h.1, h.2.1, h.2.2⟩
  else none

@[simp]
theorem of?_self (date : Date) : of? date.year date.month date.day = some date :=
  dif_pos ⟨date.yearInSpan, date.monthInYear, date.dayInMonth⟩

def next? (date : Date) : Option Date :=
  (of? date.year date.month (date.day + 1)) <|>
  (of? date.year (date.month + 1) 1) <|>
  (of? (date.year + 1) 1 1)

def previous? (date : Date) : Option Date :=
  (of? date.year date.month (date.day - 1)) <|>
  (of? date.year (date.month - 1) (daysInMonth date.year (date.month - 1))) <|>
  (of? (date.year - 1) 12 31)

/-- Days since the first of January 1970. A year counts from March, so that the leap day is
its last one. -/
def dayNumber (date : Date) : Int :=
  let year := if date.month ≤ 2 then date.year - 1 else date.year
  let month : Int := if date.month ≤ 2 then date.month + 9 else date.month - 3
  let era := Int.fdiv year 400
  let yearOfEra := year - era * 400
  let dayOfYear := (153 * month + 2) / 5 + date.day - 1
  era * 146097 + yearOfEra * 365 + yearOfEra / 4 - yearOfEra / 100 + dayOfYear - 719468

def ofDayNumber? (number : Int) : Option Date :=
  let shifted := number + 719468
  let era := Int.fdiv shifted 146097
  let dayOfEra := shifted - era * 146097
  let yearOfEra := (dayOfEra - dayOfEra / 1460 + dayOfEra / 36524 - dayOfEra / 146096) / 365
  let dayOfYear := dayOfEra - (365 * yearOfEra + yearOfEra / 4 - yearOfEra / 100)
  let month := (5 * dayOfYear + 2) / 153
  let day := dayOfYear - (153 * month + 2) / 5 + 1
  let year := yearOfEra + era * 400
  if month < 10 then of? year (month + 3).toNat day.toNat
  else of? (year + 1) (month - 9).toNat day.toNat

end Date

end Converge
