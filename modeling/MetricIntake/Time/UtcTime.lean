import MetricIntake.Double.Display
import MetricIntake.Time.Calendar

/-!
# Points in time

A `UtcTime` is a whole number of microseconds since the start of year 1, in UTC.  `TimeFields` are
the parts in which it is written; `UtcTime.iso` writes it with its offset and `UtcTime.isoZulu` with
the letter `Z`.
-/

namespace MetricIntake

/-- The number of microseconds of a day. -/
def microsPerDay : Nat := 86400000000

/-- The number of microseconds in the years that can be written. -/
def microsLimit : Nat := Calendar.dayLimit * microsPerDay

/-- A point in time of the years 1 to 9999. -/
structure UtcTime where
  /-- Microseconds since the start of year 1. -/
  micros : Nat
  /-- The time is not after year 9999. -/
  inRange : micros < microsLimit
deriving DecidableEq

namespace UtcTime

instance : Inhabited UtcTime := ⟨0, by decide⟩

/-- The time so many microseconds after the start of year 1, if it is in range. -/
def ofMicros? (micros : Int) : Option UtcTime :=
  if h : 0 ≤ micros ∧ micros < microsLimit then some ⟨micros.toNat, by omega⟩ else none

end UtcTime

/-- A date and a time of day. -/
structure TimeFields where
  date : Date
  hour : Nat
  minute : Nat
  second : Nat
  micro : Nat
deriving DecidableEq, Repr, Inhabited

namespace TimeFields

/-- The date exists and the time of day is before 24:00. -/
def isValid (f : TimeFields) : Bool :=
  f.date.isValid && f.hour < 24 && f.minute < 60 && f.second < 60 && f.micro < 1000000

/-- Microseconds from the start of year 1 to the fields. -/
def micros (f : TimeFields) : Nat :=
  f.date.dayNumber * microsPerDay + ((f.hour * 60 + f.minute) * 60 + f.second) * 1000000 + f.micro

/-- The fields of a number of microseconds. -/
def ofMicros (n : Nat) : TimeFields :=
  let day := n % microsPerDay
  let seconds := day / 1000000
  { date := Date.ofDayNumber (n / microsPerDay)
    hour := seconds / 3600
    minute := seconds / 60 % 60
    second := seconds % 60
    micro := day % 1000000 }

/-- The written date and time of day, the microseconds only where there are any. -/
def text (f : TimeFields) : List Char :=
  paddedText 4 f.date.year ++ '-' :: paddedText 2 f.date.month ++ '-' :: paddedText 2 f.date.day ++
    'T' :: paddedText 2 f.hour ++ ':' :: paddedText 2 f.minute ++ ':' :: paddedText 2 f.second ++
    if f.micro = 0 then [] else '.' :: paddedText 6 f.micro

end TimeFields

namespace UtcTime

/-- The parts in which the time is written. -/
def fields (t : UtcTime) : TimeFields :=
  TimeFields.ofMicros t.micros

/-- The written time with the offset of UTC. -/
def iso (t : UtcTime) : String :=
  String.ofList (t.fields.text ++ "+00:00".toList)

/-- The written time with the letter `Z`. -/
def isoZulu (t : UtcTime) : String :=
  String.ofList (t.fields.text ++ ['Z'])

end UtcTime

end MetricIntake
