import MetricIntake.Named

/-!
# The store

The key/value store that all caches share.  Its entries have a time to live, and reading or writing
may fail for as long as the store is down.
-/

namespace MetricIntake

/-- What is kept under a key. -/
structure Entry where
  bytes : List UInt8
  /-- The time to live in milliseconds. -/
  ttl : Int
deriving DecidableEq, Repr

/-- The entries, and what is said of a failing access, if it fails. -/
structure Store where
  entries : List (String × Entry)
  readFailure : Option String
  writeFailure : Option String
deriving DecidableEq, Repr

namespace Store

/-- A working store without entries. -/
def empty : Store := { entries := [], readFailure := none, writeFailure := none }

instance : Inhabited Store := ⟨empty⟩

/-- The entry under a key. -/
def get? (s : Store) (key : String) : Option Entry :=
  Named.lookup key s.entries

/-- The store with an entry. -/
def insert (s : Store) (key : String) (e : Entry) : Store :=
  { s with entries := Named.put key e s.entries }

/-- The store without a key. -/
def erase (s : Store) (key : String) : Store :=
  { s with entries := s.entries.filter (·.1 ≠ key) }

/-- What was inserted is found, and nothing else changes. -/
theorem get?_insert (s : Store) (key other : String) (e : Entry) :
    (s.insert key e).get? other = if other = key then some e else s.get? other :=
  Named.lookup_put key other e s.entries

end Store

end MetricIntake
