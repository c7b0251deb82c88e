import MetricIntake.Double.Basic
import MetricIntake.Fault
import MetricIntake.Log
import MetricIntake.Sample
import MetricIntake.Time.UtcTime

/-!
# Sources

A source can be asked for the latest sample of a metric.  `Source` is its id, what it is, and how it
answers: with a `Reply`, and with a change to the world outside, the type `ω`.  A `Client` is a
source that has been built, with the number that tells it from all others.
-/

namespace MetricIntake

/-- A request over HTTP. -/
structure HttpRequest where
  url : String
  headers : List (String × String)
  /-- How many seconds the answer may take. -/
  timeout : Double
deriving DecidableEq

/-- What a source is. -/
inductive Profile
  /-- An HTTP service. -/
  | endpoint (baseUrl token : String) (timeout : Double)
  /-- Values from the settings. -/
  | fixed
  /-- Anything else, with its name. -/
  | named (label : String)
deriving DecidableEq

/-- The word for what a source is. -/
def Profile.label : Profile → String
  | endpoint _ _ _ => "RefocusClient"
  | fixed => "StaticSource"
  | named label => label

/-- What comes of asking a source. -/
structure Reply where
  /-- What the source says about its work. -/
  records : List LogRecord
  /-- What it requests over HTTP. -/
  requests : List HttpRequest
  /-- For how many seconds it works. -/
  took : Double
  /-- A shutdown is requested meanwhile. -/
  stops : Bool
  /-- The sample, if the source has one, or a failure. -/
  outcome : Except Failure (Option Sample)

/-- An answer at once and without a word. -/
def Reply.plain (outcome : Except Failure (Option Sample)) : Reply :=
  { records := [], requests := [], took := .zero, stops := false, outcome }

/-- Something that can be asked for samples, in a world outside that answers may depend on and
change. -/
structure Source (ω : Type) where
  id : String
  profile : Profile
  /-- The answer for a metric at a time. -/
  ask : String → UtcTime → ω → Reply × ω

/-- How a source is shown. -/
def Source.title {ω : Type} (s : Source ω) : String :=
  s.profile.label ++ "(" ++ Text.quote s.id ++ ")"

/-- A source that has been built. -/
structure Client (ω : Type) where
  /-- No two clients have the same number. -/
  serial : Nat
  source : Source ω

/-- What the parts do that others can see from outside. -/
inductive Event
  | built (id : String)
  | connected (url : String)
  | asked (profile : Profile) (id name : String)
  | requested (r : HttpRequest)
deriving DecidableEq

end MetricIntake
