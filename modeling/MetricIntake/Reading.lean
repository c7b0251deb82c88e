import MetricIntake.Double.Display
import MetricIntake.Fault
import MetricIntake.Log
import MetricIntake.Sample
import MetricIntake.Time.Reader

/-!
# Readings

A `Reading` is what a sample comes to: a point in time and a number.  `Sample.judge` says of every
sample whether it is accepted, why it is rejected, or that its time cannot be put in UTC.
`Reading.toJson` is the form in which readings are handed out.
-/

namespace MetricIntake

/-- The result of a request. -/
structure Reading where
  time : UtcTime
  name : CodeText
  value : Double
  /-- The value before any adjustment. -/
  rawValue : Double
  messages : List String
deriving DecidableEq, Inhabited

/-- The reading with one more message at the end. -/
def Reading.withMessage (r : Reading) (message : String) : Reading :=
  { r with messages := r.messages ++ [message] }

/-- The members of a reading in their order. -/
def Reading.toJson (r : Reading) : Json :=
  let messages := r.messages.map fun message => .text (CodeText.ofString message)
  .object [("time", .text r.time.isoZulu), ("name", .text r.name), ("value", .double r.value),
    ("original_value", .double r.rawValue), ("metadata", .object [("messages", .array messages)])]

/-- The message of a reading that has the default value of its request. -/
def defaultMessage (name : String) (value : Double) : String :=
  "Default value provided for " ++ name ++ ": " ++ value.plain

/-- Why a sample is no reading. -/
inductive Rejection
  | badTime (e : TimeError)
  | timedOut
  | badValue (e : NumberError)
deriving DecidableEq, Repr

/-- What is said about a rejection. -/
def Rejection.message : Rejection → String
  | badTime e => "invalid time: " ++ e.message
  | timedOut => "timed out"
  | badValue e => "invalid value: " ++ e.message

/-- The record of a rejected sample. -/
def Rejection.record (why : Rejection) (sample : Sample) (source : String) : LogRecord :=
  ⟨.warning, .reading,
    "No data for " ++ sample.name.plain ++ ", source " ++ source ++ "; " ++ why.message⟩

/-- What a sample comes to. -/
inductive Judgement
  | accepted (r : Reading)
  | rejected (why : Rejection)
  | fault (f : Fault)

/-- The reading of a sample.  The time is looked at first. -/
def Sample.judge (s : Sample) : Judgement :=
  match readUtcTime s.updatedAt with
  | .error .outOfRange => .fault .dateOutOfRange
  | .error e => .rejected (.badTime e)
  | .ok time =>
    match readNumber s.value with
    | .error e => .rejected (if s.isTimedOut then .timedOut else .badValue e)
    | .ok value =>
      .accepted { time, name := s.name, value, rawValue := value, messages := [] }

end MetricIntake
