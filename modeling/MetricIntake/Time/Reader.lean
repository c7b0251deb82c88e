import MetricIntake.Numeral
import MetricIntake.Time.UtcTime

/-!
# Reading times

The written times of a sample: an ISO date, and behind any one separator a time of day with an
optional offset.  `DateText.read?` reads dates with or without hyphens and dates by week,
`ClockText.read?` a time of day cut short anywhere, `Offset.read?` the offset, and `readUtcTime` the
whole text.

A time of day may be followed by at most one more character where an offset stands behind it, and by
anything that is no digit behind six digits of a fraction; without an offset nothing but a NUL may
follow it.
-/

namespace MetricIntake

/-- Why a text is not a point in time. -/
inductive TimeError
  | empty
  | malformed (text : CodeText)
  | outOfRange
deriving DecidableEq, Repr

/-- A number of exactly `width` digits at the front of a text, and the rest. -/
def takeNumber (width : Nat) (cs : List Char) : Option (Nat × List Char) :=
  let ds := cs.take width
  if ds.length = width ∧ ds.all isDigit then some (digitsValue ds, cs.drop width) else none

/-! ### Dates -/

namespace DateText

/-- The length of the date at the front of a text, told from its fifth and sixth characters.  Behind
a week, a hyphen and two digits are a separator and an hour; behind a week without hyphens an even
number of digits is a day and the rest. -/
def length (cs : List Char) : Nat :=
  if cs.length = 7 then 7
  else
    match cs.drop 4 with
    | '-' :: 'W' :: _ =>
      if cs[8]? = some '-' then
        if (cs[10]?.map isDigit).getD false then 8 else 10
      else 8
    | '-' :: _ => 10
    | 'W' :: _ =>
      let stop := 7 + ((cs.drop 7).takeWhile isDigit).length
      if stop < 9 then stop else if stop % 2 = 0 then 7 else 8
    | _ => 8

/-- The week and the day behind a `W`; without a day it is Monday. -/
def readWeek? (year : Nat) (hyphens : Bool) (cs : List Char) : Option Date := do
  let (week, cs) ← takeNumber 2 cs
  match hyphens, cs with
  | _, [] => Date.ofWeek? year week 1
  | true, '-' :: cs =>
    let (day, cs) ← takeNumber 1 cs
    if cs.isEmpty then Date.ofWeek? year week day else none
  | true, _ => none
  | false, cs =>
    let (day, cs) ← takeNumber 1 cs
    if cs.isEmpty then Date.ofWeek? year week day else none

/-- The month and the day behind a year. -/
def readDay? (year : Nat) (hyphens : Bool) (cs : List Char) : Option Date := do
  let (month, cs) ← takeNumber 2 cs
  let cs ← match hyphens, cs with
    | true, '-' :: cs => some cs
    | true, _ => none
    | false, cs => some cs
  let (day, cs) ← takeNumber 2 cs
  let date : Date := { year, month, day }
  if cs.isEmpty && date.isValid then some date else none

/-- A whole text as a date that exists. -/
def read? (cs : List Char) : Option Date := do
  let (year, cs) ← takeNumber 4 cs
  let (hyphens, cs) := match cs with
    | '-' :: cs => (true, cs)
    | cs => (false, cs)
  match cs with
  | 'W' :: cs => readWeek? year hyphens cs
  | cs => readDay? year hyphens cs

end DateText

/-! ### Times of day -/

/-- The parts of a time of day or of an offset as they are written, before any of them is judged. -/
structure ClockText where
  hour : Nat
  minute : Nat
  second : Nat
  micro : Nat
  /-- Something that is not part of the time follows it. -/
  trailing : Bool
deriving DecidableEq, Repr, Inhabited

namespace ClockText

/-- A NUL ends a text as its end does. -/
def isTrailing : List Char → Bool
  | [] => false
  | c :: _ => c ≠ '\x00'

/-- The digits of a fraction in microseconds: the first six count and all are passed over. -/
def readFraction? (cs : List Char) : Option (Nat × Bool) :=
  let width := min 6 cs.length
  match takeNumber width cs with
  | some (n, rest) =>
    if width = 0 then none
    else some (n * Nat.pow 10 (6 - width), isTrailing (rest.dropWhile isDigit))
  | none => none

/-- The parts behind those in `parts`.  `colons` says whether colons part them, which the character
behind the hour decides. -/
def readFrom (fuel : Nat) (colons : Bool) (parts : List Nat) (cs : List Char) : Option ClockText :=
  match fuel with
  | 0 => none
  | fuel + 1 => do
    let (n, rest) ← takeNumber 2 cs
    let parts := parts ++ [n]
    let make (micro : Nat) (trailing : Bool) : ClockText :=
      { hour := parts.getD 0 0, minute := parts.getD 1 0, second := parts.getD 2 0, micro,
        trailing }
    let finish (cs : List Char) : Option ClockText :=
      (readFraction? cs).map fun (micro, trailing) => make micro trailing
    match rest with
    | [] => some (make 0 false)
    | [c] => if c.toNat < 0x80 then some (make 0 (c ≠ '\x00')) else none
    | c :: behind =>
      let colons := if parts.length = 1 then c = ':' else colons
      if colons && c = ':' then
        if fuel = 0 then finish behind else readFrom fuel colons parts behind
      else if c = '.' || c = ',' then finish behind
      else if colons then none
      else if fuel = 0 then finish rest
      else readFrom fuel colons parts rest

/-- Two digits each of hour, minute and second, of which the later ones may be missing, and a
fraction behind the last. -/
def read? (cs : List Char) : Option ClockText :=
  readFrom 3 false [] cs

end ClockText

/-- The distance of local time from UTC. -/
structure Offset where
  /-- Ahead of UTC by so many microseconds. -/
  micros : Int
deriving DecidableEq, Repr, Inhabited

namespace Offset

/-- The offset behind a time of day, `none` if it is malformed or a day or more.  An offset below a
second is none at all. -/
def read? : List Char → Option Offset
  | [] => some ⟨0⟩
  | 'Z' :: rest => if ClockText.isTrailing rest then none else some ⟨0⟩
  | sign :: cs =>
    match ClockText.read? cs with
    | some c =>
      let seconds := (c.hour * 60 + c.minute) * 60 + c.second
      let micros := seconds * 1000000 + c.micro
      if c.trailing then none
      else if seconds = 0 then some ⟨0⟩
      else if micros < microsPerDay then some ⟨if sign = '-' then -(micros : Int) else micros⟩
      else none
    | none => none

end Offset

/-! ### Whole times -/

/-- A character that starts an offset. -/
def startsOffset (c : Char) : Bool := c = '+' || c = '-' || c = 'Z'

/-- The fields and the offset of a written time; without a time of day it is midnight. -/
def readTimeFields? (cs : List Char) : Option (TimeFields × Offset) := do
  let length := DateText.length cs
  let date ← DateText.read? (cs.take length)
  match cs.drop length with
  | [] => some ({ date, hour := 0, minute := 0, second := 0, micro := 0 }, ⟨0⟩)
  | _ :: time =>
    let clockText := time.takeWhile fun c => !startsOffset c
    let offsetText := time.dropWhile fun c => !startsOffset c
    let clock ← ClockText.read? clockText
    let offset ← Offset.read? offsetText
    let fields : TimeFields :=
      { date, hour := clock.hour, minute := clock.minute, second := clock.second,
        micro := clock.micro }
    if (clock.trailing && offsetText.isEmpty) || !fields.isValid then none
    else some (fields, offset)

/-- The text with a letter in the place of half a character where a separator can stand. -/
def fillSeparator (text : CodeText) : CodeText :=
  match [7, 8, 10].find? fun place => text[place]?.any (·.isHalf) with
  | some place => text.set place (.char 'T')
  | none => text

/-- The point in time that a text stands for, blank characters at its ends aside.  A time without an
offset is in UTC, and half a character can be nothing but the separator. -/
def readUtcTime (text : CodeText) : Except TimeError UtcTime :=
  let body := text.trim
  if body.isEmpty then .error .empty
  else
    match (fillSeparator body).chars?.bind readTimeFields? with
    | none => .error (.malformed body)
    | some (fields, offset) =>
      match UtcTime.ofMicros? (fields.micros - offset.micros) with
      | some t => .ok t
      | none => .error .outOfRange

/-- What is said about a text that is no point in time. -/
def TimeError.message : TimeError → String
  | empty => "empty timestamp"
  | malformed text => "not an ISO-8601 time: " ++ String.ofList (Text.quoted text)
  | outOfRange => "date value out of range"

end MetricIntake
