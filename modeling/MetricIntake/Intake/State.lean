import MetricIntake.Clock
import MetricIntake.Metrics
import MetricIntake.Registry
import MetricIntake.Shutdown
import MetricIntake.Source.Resolver

/-!
# Intakes

An `Intake` is all that one worker keeps between batches, together with the store, the clock and the
world outside that it works with.  `Surroundings` say how sources are built, how the store is
connected and which cache is that of a source.  This module has the single steps that change an
intake: records, events, counts, the shutdown flag, finding a client and its cache, reading and
writing the cache, and asking a source.
-/

namespace MetricIntake

/-- How sources are built and how the store is connected and read, in a world outside of type
`ω`. -/
structure Surroundings (ω : Type) where
  /-- A source for an id, or a failure. -/
  build : String → ω → Except Failure (Source ω) × ω
  /-- A connection to the store, or a failure. -/
  connect : ω → Except Failure Unit × ω
  /-- Where the store is. -/
  storeUrl : String
  /-- The first part of the keys in the store. -/
  keyspace : String
  /-- How deep values may lie in an entry of the store. -/
  depth : Json.Depth

/-- The cache of a source id. -/
def Surroundings.cache {ω : Type} (s : Surroundings ω) (id : String) : Cache :=
  { keyspace := s.keyspace, source := id, depth := s.depth }

/-- All that one worker keeps. -/
structure Intake (ω : Type) where
  outside : ω
  store : Store
  clock : Clock
  /-- The shutdown flag. -/
  stopping : Bool
  metrics : Metrics
  resolver : Resolver ω
  caches : CacheRegistry
  /-- What was said so far. -/
  records : List LogRecord
  /-- What was done so far that can be seen from outside. -/
  events : List Event

namespace Intake

variable {ω : Type}

/-- Nothing built, counted or said. -/
def fresh (outside : ω) (store : Store) (clock : Clock) (meter : String) : Intake ω :=
  { outside, store, clock, stopping := false, metrics := .fresh meter, resolver := .empty,
    caches := .empty, records := [], events := [] }

/-! ### Records, events and counts -/

/-- Some more records. -/
def say (k : Intake ω) (records : List LogRecord) : Intake ω :=
  { k with records := k.records ++ records }

/-- Some more events. -/
def emit (k : Intake ω) (events : List Event) : Intake ω :=
  { k with events := k.events ++ events }

/-- One more request that ended so. -/
def count (k : Intake ω) (o : Outcome) : Intake ω :=
  { k with metrics := k.metrics.add o }.say [k.metrics.outcomeRecord o]

/-- A shutdown is requested. -/
def trigger (k : Intake ω) : Intake ω :=
  let (stopping, records) := triggerFlag k.stopping
  { k with stopping }.say records

/-! ### Clients and caches -/

/-- The client of a source id, built if there is none.  If the source cannot be built there is none,
and the next attempt builds again. -/
def resolve (s : Surroundings ω) (id : String) (k : Intake ω) :
    Except Failure (Option (Client ω)) × Intake ω :=
  match k.resolver.client? id with
  | some client => (.ok (some client), k)
  | none =>
    let k := { k with resolver := k.resolver.note id }.emit [.built id]
    match s.build id k.outside with
    | (.error (.source e), outside) =>
      (.ok none, { k with outside }.say [Resolver.failedRecord id e])
    | (.error (.fault f), outside) => (.error (.fault f), { k with outside })
    | (.ok source, outside) =>
      let (client, resolver) := k.resolver.bind id source
      (.ok (some client), { k with outside, resolver }.say [Resolver.builtRecord client])

/-- The cache of a client, connected if there is none. -/
def cacheOf (s : Surroundings ω) (client : Client ω) (k : Intake ω) :
    Except Failure BoundCache × Intake ω :=
  match k.caches.cache? client.serial with
  | some bound => (.ok bound, k)
  | none =>
    let k := k.emit [.connected s.storeUrl]
    match s.connect k.outside with
    | (.error f, outside) => (.error f, { k with outside })
    | (.ok (), outside) =>
      let (bound, caches) := k.caches.bind client.serial (s.cache client.source.id)
      (.ok bound, { k with outside, caches })

/-- The clients and caches of one source id, or of all, are forgotten. -/
def reset (id? : Option String) (k : Intake ω) : Intake ω :=
  let (dropped, resolver) := k.resolver.reset id?
  { k with
    resolver
    caches := dropped.foldl (fun caches client => caches.discard client.serial) k.caches }

/-! ### The cache -/

/-- The sample that a cache has for a key. -/
def readCache (cache : Cache) (key : String) (k : Intake ω) :
    Except Failure (Option Sample) × Intake ω :=
  match cache.look k.store key with
  | .ok found => (.ok found.sample?, k.say (cache.lookRecords key found))
  | .error f => (.error (.fault f), k)

/-- A sample is kept in a cache. -/
def writeCache (cache : Cache) (key : String) (sample : Sample) (ttl : Nat) (k : Intake ω) :
    Except Failure Unit × Intake ω :=
  match cache.keep k.store key sample ttl with
  | .ok (store, records) => (.ok (), { k with store }.say records)
  | .error f => (.error (.fault f), k)

/-! ### Asking a source -/

/-- The timer of a source's fetches. -/
def timerName (source : String) : String := "get-sample." ++ source

/-- The intake after a reply, but for the time it took to get it. -/
def receive (reply : Reply) (k : Intake ω) : Intake ω :=
  let k := (k.say reply.records).emit (reply.requests.map .requested)
  let k := { k with clock := k.clock.pass reply.took }
  if reply.stops then k.trigger else k

/-- A client's answer for a metric, which is timed whatever the answer is. -/
def fetch (client : Client ω) (name : String) (k : Intake ω) :
    Except Failure (Option Sample) × Intake ω :=
  let source := client.source
  let (started, clock) := k.clock.read
  let k := { k with clock }.emit [.asked source.profile source.id name]
  let (reply, outside) := source.ask name k.clock.now k.outside
  let k := { k with outside }.receive reply
  let (stopped, clock) := k.clock.read
  let metrics := k.metrics.record (timerName source.id) (Clock.elapsedMillis started stopped)
  (reply.outcome, { k with clock, metrics })

end Intake

end MetricIntake
