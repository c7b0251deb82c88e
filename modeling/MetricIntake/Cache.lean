import MetricIntake.Fault
import MetricIntake.Log
import MetricIntake.Sample
import MetricIntake.Store

/-!
# Caches

A `Cache` keeps the samples of one source in the store.  `Sample.ofBytes` reads a sample that is
kept, `Cache.look` finds what is kept under a key and `Cache.keep` writes a sample; neither fails
when the store does.
-/

namespace MetricIntake

/-- The samples of one source in the store. -/
structure Cache where
  /-- The first part of every key. -/
  keyspace : String
  /-- The second part: the id of the source. -/
  source : String
  /-- How deep values may lie in what is read. -/
  depth : Json.Depth
deriving DecidableEq, Repr, Inhabited

/-- What is found under a key. -/
inductive Lookup
  | found (s : Sample)
  | absent
  | unreadable
  | failed (message : String)
deriving DecidableEq, Repr

/-- The sample of a look-up. -/
def Lookup.sample? : Lookup → Option Sample
  | .found s => some s
  | _ => none

namespace Cache

/-- The first part of every key where none is given. -/
def defaultKeyspace : String := "sampleduct"

/-- A cache whose first key part is the default one if none or an empty one is given. -/
def ofKeyspace? (keyspace : Option String) (source : String) (depth : Json.Depth) : Cache :=
  match keyspace with
  | some k => { keyspace := if k.isEmpty then defaultKeyspace else k, source, depth }
  | none => { keyspace := defaultKeyspace, source, depth }

/-- The key of the store for a key of the cache. -/
def storeKey (c : Cache) (key : String) : String :=
  c.keyspace ++ ":" ++ c.source ++ ":" ++ key

end Cache

/-- The sample that bytes keep; none if they keep anything else. -/
def Sample.ofBytes (depth : Json.Depth) (bytes : List UInt8) : Except Fault (Option Sample) :=
  match Json.readBytes depth bytes with
  | some (.ok (.object members)) => .ok (Sample.ofMembers members).toOption
  | some (.error (.nesting c)) => .error (.nesting c)
  | _ => .ok none

namespace Cache

/-- What the store has for a key.  Empty bytes are nothing. -/
def look (c : Cache) (store : Store) (key : String) : Except Fault Lookup :=
  match store.readFailure with
  | some message => .ok (.failed message)
  | none =>
    match store.get? (c.storeKey key) with
    | none => .ok .absent
    | some entry =>
      if entry.bytes.isEmpty then .ok .absent
      else
        match Sample.ofBytes c.depth entry.bytes with
        | .ok (some sample) => .ok (.found sample)
        | .ok none => .ok .unreadable
        | .error f => .error f

/-- What is said about a look-up. -/
def lookRecords (c : Cache) (key : String) : Lookup → List LogRecord
  | .unreadable =>
    [⟨.warning, .cache, "Discarding unreadable cache entry " ++ key ++ ", source " ++ c.source⟩]
  | .failed message =>
    [⟨.warning, .cache,
      "Cache read failed for " ++ key ++ ", source " ++ c.source ++ ": " ++ message⟩]
  | _ => []

/-- The record of a sample that the store does not take. -/
def writeFailedRecord (c : Cache) (key message : String) : LogRecord :=
  ⟨.warning, .cache, "Cache write failed for " ++ key ++ ", source " ++ c.source ++ ": " ++ message⟩

/-- The store with a sample under a key for so many milliseconds, and what is said about it.
Without a time to live nothing is kept; a sample with halves of characters cannot be. -/
def keep (c : Cache) (store : Store) (key : String) (sample : Sample) (ttl : Int) :
    Except Fault (Store × List LogRecord) :=
  if ttl ≤ 0 then .ok (store, [])
  else
    match sample.halves?, store.writeFailure with
    | some halves, _ => .error (.unwritable halves)
    | none, some message => .ok (store, [c.writeFailedRecord key message])
    | none, none => .ok (store.insert (c.storeKey key) { bytes := sample.dumpBytes, ttl }, [])

end Cache

end MetricIntake
