import TableQuery.Text.Inspect
import TableQuery.Text.Numeral

/-!
# Calendar dates and times of day

Dates of the proleptic calendar, times of day down to the nanosecond, and their written forms. A
leap second is a fraction of a second or more past second 59, and is written as second 60.
-/

namespace TableQuery

/-- Whether the year has a 29th of February. -/
def isLeapYear (year : Int) : Bool :=
  year % 4 == 0 && (year % 100 != 0 || year % 400 == 0)

def daysInMonth (year : Int) (month : Nat) : Nat :=
  if month == 2 then (if isLeapYear year then 29 else 28)
  else if month == 4 || month == 6 || month == 9 || month == 11 then 30
  else 31

/-- A day of the calendar. Years before the first are zero and negative. -/
structure CivilDate where
  year : Int
  month : Nat
  day : Nat
  month_valid : 1 ≤ month ∧ month ≤ 12
  day_valid : 1 ≤ day ∧ day ≤ daysInMonth year month
  deriving DecidableEq

/-- A time of day. A fraction of a second or more, after second 59 only, is a leap second. -/
structure TimeOfDay where
  hour : Nat
  minute : Nat
  second : Nat
  nanos : Nat
  hour_valid : hour < 24
  minute_valid : minute < 60
  second_valid : second < 60
  nanos_valid : nanos < 1000000000 ∨ (second = 59 ∧ nanos < 2000000000)
  deriving DecidableEq

/-- A date with a time of day. -/
structure Timestamp where
  date : CivilDate
  time : TimeOfDay
  deriving DecidableEq

namespace CivilDate

/-- The date with the given parts, if there is one. -/
def ofParts? (year : Int) (month day : Nat) : Option CivilDate :=
  if hm : 1 ≤ month ∧ month ≤ 12 then
    if hd : 1 ≤ day ∧ day ≤ daysInMonth year month then some ⟨year, month, day, hm, hd⟩ else none
  else none

/-- The year with at least four digits; outside of 0 to 9999 it carries its sign. -/
def yearText (year : Int) : String :=
  if year < 0 then "-" ++ Text.padded 4 year.natAbs
  else if 9999 < year then "+" ++ Text.padded 4 year.natAbs
  else Text.padded 4 year.natAbs

/-- Year, month and day between hyphens. -/
def text (d : CivilDate) : String :=
  yearText d.year ++ "-" ++ Text.padded 2 d.month ++ "-" ++ Text.padded 2 d.day

end CivilDate

namespace TimeOfDay

/-- The time with the given parts, if there is one. -/
def ofParts? (hour minute second nanos : Nat) : Option TimeOfDay :=
  if hh : hour < 24 then
    if hm : minute < 60 then
      if hs : second < 60 then
        if hn : nanos < 1000000000 ∨ (second = 59 ∧ nanos < 2000000000) then
          some ⟨hour, minute, second, nanos, hh, hm, hs, hn⟩
        else none
      else none
    else none
  else none

/-- The second as it is written: 60 in a leap second. -/
def shownSecond (t : TimeOfDay) : Nat :=
  t.second + t.nanos / 1000000000

/-- Hour, minute and second between colons. -/
def text (t : TimeOfDay) : String :=
  Text.padded 2 t.hour ++ ":" ++ Text.padded 2 t.minute ++ ":" ++ Text.padded 2 t.shownSecond

/-- The fraction of a second in three, six or nine digits, whichever is enough. -/
def fractionText (t : TimeOfDay) : String :=
  let n := t.nanos % 1000000000
  if n == 0 then ""
  else if n % 1000000 == 0 then "." ++ Text.padded 3 (n / 1000000)
  else if n % 1000 == 0 then "." ++ Text.padded 6 (n / 1000)
  else "." ++ Text.padded 9 n

end TimeOfDay

namespace Timestamp

/-- The date and the time with a blank between them. -/
def text (ts : Timestamp) : String :=
  ts.date.text ++ " " ++ ts.time.text

end Timestamp

instance : Inspect CivilDate := ⟨CivilDate.text⟩

instance : Inspect TimeOfDay := ⟨fun t => t.text ++ t.fractionText⟩

instance : Inspect Timestamp := ⟨fun ts => inspect ts.date ++ "T" ++ inspect ts.time⟩

end TableQuery
