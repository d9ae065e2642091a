/-!
# Calendar time

The date and the time of day of a moment given in seconds since the start of 1970, in universal
time and the Gregorian calendar.
-/

namespace QueueAck

/-- A moment in the calendar. -/
structure CalendarTime where
  /-- The moment itself, in seconds since the start of 1970. -/
  moment : Int
  /-- The year. -/
  year : Int
  /-- The month, from 1. -/
  month : Nat
  /-- The day of the month, from 1. -/
  day : Nat
  /-- The hour of the day. -/
  hour : Nat
  /-- The minute of the hour. -/
  minute : Nat
  /-- The second of the minute. -/
  second : Nat
  /-- The day of the week, Sunday being 0. -/
  weekday : Nat
  /-- The day of the year, from 1. -/
  yearDay : Nat
deriving DecidableEq, Repr

namespace CalendarTime

/-- True for a year with 366 days. -/
def isLeap (y : Int) : Bool := y % 4 == 0 && (y % 100 != 0 || y % 400 == 0)

/-- The days of the year before a month starts. -/
def daysBefore (y : Int) (month : Nat) : Nat :=
  let before := [0, 31, 59, 90, 120, 151, 181, 212, 243, 273, 304, 334][month - 1]?.getD 0
  if 2 < month && isLeap y then before + 1 else before

/-- The calendar time of a number of seconds since the start of 1970. Years are counted from March
in cycles of four centuries, 146097 days each. -/
def ofSeconds (t : Int) : CalendarTime :=
  let days := t / 86400
  let rest := (t % 86400).toNat
  let shifted := days + 719468
  let cycle := shifted / 146097
  let inCycle := (shifted % 146097).toNat
  let yearInCycle := (inCycle - inCycle / 1460 + inCycle / 36524 - inCycle / 146096) / 365
  let fromMarch := inCycle - (365 * yearInCycle + yearInCycle / 4 - yearInCycle / 100)
  let m := (5 * fromMarch + 2) / 153
  let day := fromMarch - (153 * m + 2) / 5 + 1
  let month := if m < 10 then m + 3 else m - 9
  let year := cycle * 400 + yearInCycle + (if month ≤ 2 then 1 else 0)
  { moment := t
    year, month, day
    hour := rest / 3600
    minute := rest / 60 % 60
    second := rest % 60
    weekday := ((days + 4) % 7).toNat
    yearDay := daysBefore year month + day }

/-- The names of the days of the week. -/
def dayNames : List String :=
  ["Sunday", "Monday", "Tuesday", "Wednesday", "Thursday", "Friday", "Saturday"]

/-- The names of the months. -/
def monthNames : List String :=
  ["January", "February", "March", "April", "May", "June", "July", "August", "September",
    "October", "November", "December"]

/-- The name of the day of the week. -/
def dayName (t : CalendarTime) : List Char := (dayNames[t.weekday]?.getD "").toList

/-- The name of the month. -/
def monthName (t : CalendarTime) : List Char := (monthNames[t.month - 1]?.getD "").toList

/-- The hour on a clock face. -/
def clockHour (t : CalendarTime) : Nat := if t.hour % 12 = 0 then 12 else t.hour % 12

/-- The half of the day. -/
def halfDay (t : CalendarTime) : List Char := if t.hour < 12 then ['A', 'M'] else ['P', 'M']

/-- The days of a year. -/
def yearLength (y : Int) : Nat := if isLeap y then 366 else 365

/-- A year as it is kept in 32 binary digits. -/
def kept (y : Int) : Int := y.bmod 4294967296

/-- The week of the year and the year that the week is counted in. Weeks start on Monday, and the
first week of a year is the one that holds its first Thursday. -/
def week (t : CalendarTime) : Int × Nat :=
  let sinceMonday := (t.weekday + 6) % 7
  let thursday : Int := (t.yearDay : Int) + 3 - sinceMonday
  if thursday < 1 then
    let y := t.year - 1
    (y, ((thursday + yearLength y + 6) / 7).toNat)
  else if (yearLength t.year : Int) < thursday then (kept (t.year + 1), 1)
  else (t.year, ((thursday + 6) / 7).toNat)

end CalendarTime

/-- The first second of 1970. -/
example : CalendarTime.ofSeconds 0 = ⟨0, 1970, 1, 1, 0, 0, 0, 4, 1⟩ := by decide +kernel

/-- The last day of February in a leap year. -/
example : CalendarTime.ofSeconds 951782400 = ⟨951782400, 2000, 2, 29, 0, 0, 0, 2, 60⟩ := by
  decide +kernel

end QueueAck
