import MetricIntake.Intake.Resolution
import MetricIntake.Reading

/-!
# Batches

A batch of requests is worked off source by source, in the order in which the sources first appear
in it: `Intake.process`.  A source's requests keep their order; an unexpected failure ends its work
and is raised after all other sources have done theirs.
-/

namespace MetricIntake

/-- The ids of the sources of a batch, in the order of first appearance. -/
def batchSources (batch : List Request) : List String :=
  (batch.map (·.source)).eraseDups

/-- The requests of a batch for one source. -/
def requestsOf (source : String) (batch : List Request) : List Request :=
  batch.filter (·.source = source)

namespace Intake

variable {ω : Type}

/-! ### One request -/

/-- The reading of a sample; a sample that is rejected ends its request. -/
def readSample (sample : Sample) (source : String) (k : Intake ω) :
    Except Failure (Option Reading) × Intake ω :=
  match sample.judge with
  | .accepted r => (.ok (some r), k)
  | .rejected why => (.ok none, (k.say [why.record sample source]).count .noData)
  | .fault f => (.error (.fault f), k)

/-- What is said about a reading. -/
def loadedRecord (r : Request) (source : String) : LogRecord :=
  ⟨.info, .batch, "Loaded data for " ++ r.name ++ ", source " ++ source⟩

/-- The message of a reading, if it has the default value. -/
def markDefault (r : Request) (resolution : Resolution) (reading : Reading) : Reading :=
  match resolution.isDefault, r.defaultValue with
  | true, some x => reading.withMessage (defaultMessage r.name x)
  | _, _ => reading

/-- A request from its sample on: the reading, the cache, the count. -/
def finish (r : Request) (client : Client ω) (cache : Cache) (resolution : Resolution)
    (k : Intake ω) : Except Failure (Option Reading) × Intake ω :=
  match k.readSample resolution.sample client.source.id with
  | (.ok (some reading), k) =>
    let (written, k) := if resolution.shouldCache then
        k.writeCache cache r.cacheKey resolution.sample r.cacheMillis
      else (.ok (), k)
    match written with
    | .error f => (.error f, k)
    | .ok () =>
      (.ok (some (markDefault r resolution reading)),
        (k.count .succeeded).say [loadedRecord r client.source.id])
  | (outcome, k) => (outcome, k)

/-- A whole request. -/
def processRequest (r : Request) (client : Client ω) (cache : Cache) (k : Intake ω) :
    Except Failure (Option Reading) × Intake ω :=
  match k.resolveSample r client cache with
  | (.ok (some resolution), k) => k.finish r client cache resolution
  | (.ok none, k) => (.ok none, k)
  | (.error f, k) => (.error f, k)

/-! ### One source -/

/-- The requests of a source, one after another, each reading being a row of its own. -/
def processRequests (client : Client ω) (cache : Cache) :
    List Request → Intake ω → Except Failure (List (List Reading)) × Intake ω
  | [], k => (.ok [], k)
  | r :: rest, k =>
    match k.processRequest r client cache with
    | (.error f, k) => (.error f, k)
    | (.ok reading?, k) =>
      match processRequests client cache rest k with
      | (.error f, k) => (.error f, k)
      | (.ok rows, k) => (.ok ((reading?.map fun reading => [reading]).toList ++ rows), k)

/-- What is said about requests whose source has no client. -/
def skippedRecord (id : String) (count : Nat) : LogRecord :=
  ⟨.error, .batch,
    "No client for source " ++ id ++ "; skipping " ++ toString count ++ " request(s)"⟩

/-- All requests of one source.  Without a client they count as one failure. -/
def processSource (s : Surroundings ω) (id : String) (requests : List Request) (k : Intake ω) :
    Except Failure (List (List Reading)) × Intake ω :=
  match k.resolve s id with
  | (.error f, k) => (.error f, k)
  | (.ok none, k) => (.ok [], (k.say [skippedRecord id requests.length]).count .failed)
  | (.ok (some client), k) =>
    match k.cacheOf s client with
    | (.error f, k) => (.error f, k)
    | (.ok bound, k) => processRequests client bound.cache requests k

/-! ### All sources -/

/-- The work of each source in turn, whatever became of the others.  Sources may also be worked off
side by side; one after another is the schedule taken here. -/
def processSources (s : Surroundings ω) (batch : List Request) :
    List String → Intake ω → List (String × Except Failure (List (List Reading))) × Intake ω
  | [], k => ([], k)
  | id :: ids, k =>
    let (outcome, k) := k.processSource s id (requestsOf id batch)
    let (outcomes, k) := processSources s batch ids k
    ((id, outcome) :: outcomes, k)

/-- What is said about a source whose work ended in a failure. -/
def unexpectedRecord (id : String) : LogRecord :=
  ⟨.error, .batch, "Unexpected error processing source " ++ id⟩

/-- The records of the sources that failed. -/
def failureRecords (outcomes : List (String × Except Failure (List (List Reading)))) :
    List LogRecord :=
  outcomes.filterMap fun (id, outcome) =>
    match outcome with
    | .error _ => some (unexpectedRecord id)
    | .ok _ => none

/-- The rows of all sources, or the first failure. -/
def gather : List (String × Except Failure (List (List Reading))) →
    Except Failure (List (List Reading))
  | [] => .ok []
  | (_, .error f) :: _ => .error f
  | (_, .ok rows) :: rest =>
    match gather rest with
    | .ok more => .ok (rows ++ more)
    | .error f => .error f

/-- A whole batch. -/
def process (s : Surroundings ω) (batch : List Request) (k : Intake ω) :
    Except Failure (List (List Reading)) × Intake ω :=
  let (outcomes, k) := processSources s batch (batchSources batch) k
  (gather outcomes, k.say (failureRecords outcomes))

end Intake

end MetricIntake
