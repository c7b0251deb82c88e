import MetricIntake.Double.Display
import MetricIntake.Intake.State
import MetricIntake.Request

/-!
# Resolutions

How a request finds a sample: in the cache, from its source, or from its default value.
`Request.settle` decides what an answer of the source comes to, and `Intake.resolveSample` goes
through all three.
-/

namespace MetricIntake

/-- The sample to go on with. -/
structure Resolution where
  sample : Sample
  /-- The sample may be kept. -/
  shouldCache : Bool
  /-- The sample has the default value. -/
  isDefault : Bool
deriving DecidableEq, Repr

namespace Request

/-- What a source's answer comes to.  The default value stands in for no sample, and for the value
of a sample whose source ran out of time. -/
def settle (r : Request) (now : UtcTime) (answer : Option Sample) : Option Resolution :=
  match answer, r.defaultValue with
  | none, none => none
  | none, some x =>
    let sample : Sample := { name := r.name, value := x.plain, updatedAt := now.iso }
    some { sample, shouldCache := false, isDefault := true }
  | some sample, some x =>
    if sample.isTimedOut then
      some { sample := { sample with value := x.plain }, shouldCache := false, isDefault := true }
    else some { sample, shouldCache := 0 < r.cacheMillis, isDefault := false }
  | some sample, none =>
    some { sample, shouldCache := 0 < r.cacheMillis && !sample.isTimedOut, isDefault := false }

/-- What is said about a source that could not be asked. -/
def failedRecord (r : Request) (source : String) (e : SourceError) : LogRecord :=
  ⟨.error, .resolution,
    "Could not complete request for source " ++ source ++ "; failed metric=" ++ r.name ++
      "; due to " ++ e.message⟩

/-- What is said about a source that has no sample. -/
def emptyRecord (r : Request) (source : String) : LogRecord :=
  ⟨.error, .resolution,
    "No data for sample " ++ r.name ++ ", source " ++ source ++ "; empty response"⟩

/-- What is said about a default value. -/
def defaultRecord (sample : Sample) (source : String) : LogRecord :=
  ⟨.info, .resolution,
    "Default data provided for " ++ sample.name.plain ++ "=" ++ sample.value.plain ++ ", source " ++
      source⟩

end Request

namespace Intake

variable {ω : Type}

/-- What the answer to a request comes to; without a sample the request ends here. -/
def settle (r : Request) (source : String) (answer : Option Sample) (k : Intake ω) :
    Option Resolution × Intake ω :=
  match r.settle k.clock.now answer with
  | none => (none, (k.say [r.emptyRecord source]).count .noData)
  | some resolution =>
    (some resolution,
      if resolution.isDefault then k.say [Request.defaultRecord resolution.sample source] else k)

/-- The sample for a request.  Only what the cache does not have is fetched, and not after a
shutdown was requested, which is the one case in which a request without a sample is not counted. -/
def resolveSample (r : Request) (client : Client ω) (cache : Cache) (k : Intake ω) :
    Except Failure (Option Resolution) × Intake ω :=
  match k.readCache cache r.cacheKey with
  | (.error f, k) => (.error f, k)
  | (.ok (some sample), k) =>
    (.ok (some { sample, shouldCache := false, isDefault := false }), k)
  | (.ok none, k) =>
    if k.stopping then (.ok none, k)
    else
      match k.fetch client r.name with
      | (.error (.source e), k) =>
        (.ok none, (k.say [r.failedRecord client.source.id e]).count .failed)
      | (.error (.fault f), k) => (.error (.fault f), k)
      | (.ok answer, k) =>
        let (resolution, k) := k.settle r client.source.id answer
        (.ok resolution, k)

end Intake

end MetricIntake
