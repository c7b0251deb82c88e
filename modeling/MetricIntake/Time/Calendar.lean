/-!
# The calendar

Days of the proleptic Gregorian calendar, counted from 1 January of year 1 as day `0`:
`Date.dayNumber` and its inverse `Date.ofDayNumber`, and the first Monday of a year's week
numbering, `weekOneMonday`.
-/

namespace MetricIntake

/-- A year, month and day. -/
structure Date where
  year : Nat
  month : Nat
  day : Nat
deriving DecidableEq, Repr, Inhabited

namespace Calendar

/-- A year with a 29 February. -/
def isLeap (year : Nat) : Bool :=
  year % 4 = 0 && (year % 100 ≠ 0 || year % 400 = 0)

/-- The number of days of a month; `0` for a month that does not exist. -/
def daysInMonth (year month : Nat) : Nat :=
  match month with
  | 2 => if isLeap year then 29 else 28
  | 4 | 6 | 9 | 11 => 30
  | 1 | 3 | 5 | 7 | 8 | 10 | 12 => 31
  | _ => 0

/-- The number of days before 1 January of a year. -/
def daysBeforeYear (year : Nat) : Nat :=
  let y := year - 1
  y * 365 + y / 4 - y / 100 + y / 400

/-- The number of days of a year before the first of a month. -/
def daysBeforeMonth (year : Nat) : Nat → Nat
  | 0 => 0
  | 1 => 0
  | month + 1 => daysBeforeMonth year month + daysInMonth year month

/-- The last year. -/
def lastYear : Nat := 9999

/-- The number of days in the years `1` to `lastYear`. -/
def dayLimit : Nat := 3652059

/-- The month that holds day `n` (from `0`) of the rest of a year from `month` on, and the day
within that month (from `0`).  At most `fuel` months are passed over. -/
def findMonth (year : Nat) : Nat → Nat → Nat → Nat × Nat
  | 0, month, n => (month, n)
  | fuel + 1, month, n =>
    if n < daysInMonth year month then (month, n)
    else findMonth year fuel (month + 1) (n - daysInMonth year month)

/-- The day of the week of a day number, Monday being `0`. -/
def weekday (day : Nat) : Nat := day % 7

/-- The day number of the Monday of week 1 of a year, which is the week that holds 4 January. -/
def weekOneMonday (year : Nat) : Nat :=
  let first := daysBeforeYear year
  let w := weekday first
  if 3 < w then first - w + 7 else first - w

/-- The number of weeks of a year: 53 where 1 January is a Thursday, or a Wednesday of a leap year.
-/
def weeksInYear (year : Nat) : Nat :=
  let w := weekday (daysBeforeYear year)
  if w = 3 ∨ (w = 2 ∧ isLeap year) then 53 else 52

end Calendar

namespace Date

open Calendar

/-- A date of the years `1` to `lastYear`. -/
def isValid (d : Date) : Bool :=
  1 ≤ d.year && d.year ≤ lastYear && 1 ≤ d.month && d.month ≤ 12 &&
    1 ≤ d.day && d.day ≤ daysInMonth d.year d.month

/-- The number of days from 1 January of year 1 to a date. -/
def dayNumber (d : Date) : Nat :=
  daysBeforeYear d.year + daysBeforeMonth d.year d.month + (d.day - 1)

/-- The date of a day number, by whole spans of 400, 100, 4 and 1 years. -/
def ofDayNumber (n : Nat) : Date :=
  let n400 := n / 146097
  let r := n % 146097
  let n100 := min 3 (r / 36524)
  let r := r - n100 * 36524
  let n4 := r / 1461
  let r := r % 1461
  let n1 := min 3 (r / 365)
  let r := r - n1 * 365
  let year := n400 * 400 + n100 * 100 + n4 * 4 + n1 + 1
  let (month, day) := findMonth year 11 1 r
  { year, month, day := day + 1 }

/-- The date of a day of a numbered week, if the year, the week and the day (from `1`, Monday) exist
and the date is not after `lastYear`. -/
def ofWeek? (year week day : Nat) : Option Date :=
  if 1 ≤ year ∧ year ≤ lastYear ∧ 1 ≤ week ∧ week ≤ weeksInYear year ∧ 1 ≤ day ∧ day ≤ 7 then
    let n := weekOneMonday year + (week - 1) * 7 + (day - 1)
    if n < dayLimit then some (ofDayNumber n) else none
  else none

end Date

end MetricIntake
