import MetricIntake.Intake.Batch
import MetricIntake.LogSetup
import MetricIntake.Settings.Basic

/-!
# Workers

A `Worker` does one job after another and keeps one intake between them.  `Worker.start` makes that
intake, at most once, and installs the signal handlers; `Worker.run` is a job, and `Worker.deliver`
a signal.  What a worker does not do itself are its `Facilities`.
-/

namespace MetricIntake

/-- Why a job has no rows. -/
inductive JobFailure
  | unknownLevel (e : UnknownLevel)
  | invalidRequest (errors : List FieldError)
  | unexpected (f : Failure)
deriving DecidableEq, Repr

/-- What workers are provided with, in a world outside of type `ω`. -/
structure Facilities (ω : Type) where
  network : Network ω
  /-- A connection to the store at an address, or a failure. -/
  connect : String → ω → Except Failure Unit × ω
  /-- How deep values may lie in an entry of the store. -/
  depth : Json.Depth

/-- A process that does jobs, in a world outside of type `ω`. -/
structure Worker (ω : Type) where
  /-- The settings of the jobs. -/
  settings : Settings
  /-- The settings of the caches: where the store is and the first part of its keys. -/
  cacheSettings : Settings
  log : LogSetup
  handlers : HandlerTable
  /-- The intake is in use. -/
  started : Bool
  intake : Intake ω

namespace Worker

variable {ω : Type}

/-- A worker that has done nothing yet. -/
def fresh (settings cacheSettings : Settings) (outside : ω) (store : Store) (clock : Clock) :
    Worker ω :=
  { settings, cacheSettings, log := .initial, handlers := [], started := false,
    intake := .fresh outside store clock settings.meterName }

/-- The sources and the store are those of the settings. -/
def surroundings (facilities : Facilities ω) (w : Worker ω) : Surroundings ω :=
  { build := fun id outside =>
      ((w.settings.buildSource facilities.network id).mapError .source, outside)
    connect := facilities.connect w.cacheSettings.storeUrl
    storeUrl := w.cacheSettings.storeUrl
    keyspace := w.cacheSettings.cacheKeyPrefix
    depth := facilities.depth }

/-- The number of the flag that signals set. -/
def flag : Nat := 0

/-- The worker with an intake in use, whose flag is set by signals. -/
def start (w : Worker ω) : Worker ω :=
  if w.started then w
  else
    { w with
      started := true
      intake := .fresh w.intake.outside w.intake.store w.intake.clock w.settings.meterName
      handlers := w.handlers.install flag shutdownSignals }

/-- The worker with its intake changed. -/
def mapIntake (f : Intake ω → Intake ω) (w : Worker ω) : Worker ω :=
  { w with intake := f w.intake }

/-- A shutdown of the worker is requested. -/
def shutdown (w : Worker ω) : Worker ω := w.start.mapIntake Intake.trigger

/-- One thing that a signal does. -/
def perform (w : Worker ω) : HandlerAction → Worker ω
  | .trigger _ => w.mapIntake Intake.trigger
  | .call _ => w

/-- A signal is delivered. -/
def deliver (signal : String) (w : Worker ω) : Worker ω :=
  (w.handlers.get signal).actions.foldl perform w

/-- Rows in the form in which they are handed out. -/
def rowsJson (rows : List (List Reading)) : List (List Json) :=
  rows.map fun row => row.map Reading.toJson

/-- The rows of a batch, and a summary whatever became of it. -/
def runBatch (facilities : Facilities ω) (batch : List Request) (w : Worker ω) :
    Except JobFailure (List (List Json)) × Worker ω :=
  let (outcome, intake) := w.intake.process (w.surroundings facilities) batch
  ((outcome.map rowsJson).mapError .unexpected,
    { w with intake := intake.say intake.metrics.summary })

/-- A job.  Unless all requests are valid nothing is started. -/
def run (facilities : Facilities ω) (values : List Json) (w : Worker ω) :
    Except JobFailure (List (List Json)) × Worker ω :=
  match w.log.configure (.name w.settings.logLevel) with
  | (.error e, log) => (.error (.unknownLevel e), { w with log })
  | (.ok (), log) =>
    match Request.ofJsons values with
    | .error errors => (.error (.invalidRequest errors), { w with log })
    | .ok batch => runBatch facilities batch { w with log }.start

end Worker

end MetricIntake
