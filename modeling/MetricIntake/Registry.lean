import MetricIntake.Cache

/-!
# Cache registries

A `CacheRegistry` remembers the one cache of each client: `CacheRegistry.cache?`,
`CacheRegistry.bind` and `CacheRegistry.discard`.
-/

namespace MetricIntake

/-- A cache, with the numbers of its client and of itself. -/
structure BoundCache where
  client : Nat
  serial : Nat
  cache : Cache
deriving DecidableEq, Repr

/-- The caches that are bound to clients. -/
structure CacheRegistry where
  bindings : List BoundCache
  /-- The number of the next cache. -/
  next : Nat
deriving DecidableEq, Repr, Inhabited

namespace CacheRegistry

/-- No caches. -/
def empty : CacheRegistry := { bindings := [], next := 0 }

/-- The cache of a client. -/
def cache? (r : CacheRegistry) (client : Nat) : Option BoundCache :=
  r.bindings.find? (·.client = client)

/-- A new cache for a client. -/
def bind (r : CacheRegistry) (client : Nat) (cache : Cache) : BoundCache × CacheRegistry :=
  let bound : BoundCache := { client, serial := r.next, cache }
  (bound, { bindings := r.bindings ++ [bound], next := r.next + 1 })

/-- The client has no cache any more. -/
def discard (r : CacheRegistry) (client : Nat) : CacheRegistry :=
  { r with bindings := r.bindings.filter (·.client ≠ client) }

end CacheRegistry

end MetricIntake
