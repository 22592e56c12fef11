import Converge.Calendar

/-! Instants of universal time, to the nanosecond. A minute may have a leap second, its
sixty-first, so the fields of an instant say more than the count of seconds since 1970. -/
namespace Converge

structure Timestamp where
  date : Date
  hour : Nat
  minute : Nat
  second : Nat
  nanosecond : Nat
  hourInDay : hour < 24
  minuteInHour : minute < 60
  secondInMinute : second ≤ 60
  nanosecondInSecond : nanosecond < 1000000000
deriving DecidableEq

namespace Timestamp

def of? (date : Date) (hour minute second nanosecond : Nat) : Option Timestamp :=
  if h : hour < 24 ∧ minute < 60 ∧ second ≤ 60 ∧ nanosecond < 1000000000 then
    some ⟨date, hour, minute, second, nanosecond, h.1, h.2.1, h.2.2.1, h.2.2.2⟩
  else none

@[simp]
theorem of?_self (instant : Timestamp) :
    of? instant.date instant.hour instant.minute instant.second instant.nanosecond =
      some instant :=
  dif_pos ⟨instant.hourInDay, instant.minuteInHour, instant.secondInMinute,
    instant.nanosecondInSecond⟩

def midnight (date : Date) : Timestamp :=
  ⟨date, 0, 0, 0, 0, by decide, by decide, by decide, by decide⟩

def epoch : Timestamp :=
  midnight ⟨1970, 1, 1, by decide, by decide, by decide⟩

instance : Inhabited Timestamp := ⟨epoch⟩

/-- Whole milliseconds since the start of 1970, rounded down. -/
def millis (instant : Timestamp) : Int :=
  (((instant.date.dayNumber * 24 + instant.hour) * 60 + instant.minute) * 60 + instant.second)
    * 1000 + instant.nanosecond / 1000000

def ofMillis? (millis : Int) : Option Timestamp := do
  let date ← Date.ofDayNumber? (Int.fdiv millis 86400000)
  let rest := (millis - Int.fdiv millis 86400000 * 86400000).toNat
  of? date (rest / 3600000) (rest / 60000 % 60) (rest / 1000 % 60) (rest % 1000 * 1000000)

/-- The same time of day shifted by whole minutes, less than a day either way. -/
def shift? (instant : Timestamp) (minutes : Int) : Option Timestamp :=
  let minuteOfDay := instant.hour * 60 + instant.minute + minutes
  let date? :=
    if minuteOfDay < 0 then instant.date.previous?
    else if 1440 ≤ minuteOfDay then instant.date.next?
    else some instant.date
  let inDay := ((minuteOfDay + 1440) % 1440).toNat
  date?.bind fun date =>
    of? date (inDay / 60) (inDay % 60) instant.second instant.nanosecond

end Timestamp

end Converge
