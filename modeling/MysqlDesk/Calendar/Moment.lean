/-
Dates, times of day and date-times.

The calendar is the Gregorian one, carried back before its introduction and with a year zero. A
time of day may stand in a leap second, written as second 60; nothing here says which minutes really
had one. Neither a date nor a time of day exists unless it is valid: both types carry the proof.
-/
import MysqlDesk.Text.Numeral

set_option autoImplicit false

namespace MysqlDesk

open MysqlDesk.Text (decimal decimalPadded)

/-- Whether February has 29 days. -/
def isLeapYear (year : Int) : Bool :=
  year % 4 == 0 && (year % 100 != 0 || year % 400 == 0)

/-- The number of days of a month. -/
def daysInMonth (year : Int) (month : Nat) : Nat :=
  match month with
  | 2 => if isLeapYear year then 29 else 28
  | 4 | 6 | 9 | 11 => 30
  | _ => 31

/-- A day of the calendar, in the span of years that a date-time can have. -/
structure Date where
  year : Int
  month : Nat
  day : Nat
  valid : -262143 ≤ year ∧ year ≤ 262142 ∧ 1 ≤ month ∧ month ≤ 12 ∧ 1 ≤ day ∧
    day ≤ daysInMonth year month
  deriving DecidableEq

/-- The date with these parts, if there is one. -/
def Date.ofParts? (year : Int) (month day : Nat) : Option Date :=
  if h : -262143 ≤ year ∧ year ≤ 262142 ∧ 1 ≤ month ∧ month ≤ 12 ∧ 1 ≤ day ∧
      day ≤ daysInMonth year month then
    some ⟨year, month, day, h⟩
  else none

/-- A time of day to the nanosecond. Second 60 is a leap second. -/
structure Clock where
  hour : Nat
  minute : Nat
  second : Nat
  nanosecond : Nat
  valid : hour < 24 ∧ minute < 60 ∧ second ≤ 60 ∧ nanosecond < 1000000000
  deriving DecidableEq

/-- The time of day with these parts, if there is one. -/
def Clock.ofParts? (hour minute second nanosecond : Nat) : Option Clock :=
  if h : hour < 24 ∧ minute < 60 ∧ second ≤ 60 ∧ nanosecond < 1000000000 then
    some ⟨hour, minute, second, nanosecond, h⟩
  else none

/-- A date and a time of day, in no particular time zone. -/
structure Moment where
  date : Date
  clock : Clock
  deriving DecidableEq

/-! ## Writing -/

/-- A year in at least four digits, with a sign before the year zero and from the year 10000 on. -/
def yearText (year : Int) : List Char :=
  if year < 0 then '-' :: decimalPadded 4 year.natAbs
  else if 9999 < year then '+' :: decimalPadded 4 year.natAbs
  else decimalPadded 4 year.natAbs

/-- A date as `YYYY-MM-DD`. -/
def Date.text (d : Date) : List Char :=
  yearText d.year ++ '-' :: decimalPadded 2 d.month ++ '-' :: decimalPadded 2 d.day

/-- A time of day to the second as `HH:MM:SS`. -/
def Clock.secondText (c : Clock) : List Char :=
  decimalPadded 2 c.hour ++ ':' :: decimalPadded 2 c.minute ++ ':' :: decimalPadded 2 c.second

/-- The fraction of a second: nothing if it is zero, and else three, six or nine digits, the fewest
of these that are exact. -/
def fractionText (nanosecond : Nat) : List Char :=
  if nanosecond = 0 then []
  else if nanosecond % 1000000 = 0 then '.' :: decimalPadded 3 (nanosecond / 1000000)
  else if nanosecond % 1000 = 0 then '.' :: decimalPadded 6 (nanosecond / 1000)
  else '.' :: decimalPadded 9 nanosecond

/-- A date-time with a `T` between its parts and the shortest exact fraction. -/
def Moment.text (m : Moment) : String :=
  String.ofList (m.date.text ++ 'T' :: m.clock.secondText ++ fractionText m.clock.nanosecond)

/-- A date-time with a `T` between its parts and all nine digits of the fraction. -/
def Moment.fullText (m : Moment) : String :=
  String.ofList
    (m.date.text ++ 'T' :: m.clock.secondText ++ '.' :: decimalPadded 9 m.clock.nanosecond)

end MysqlDesk
