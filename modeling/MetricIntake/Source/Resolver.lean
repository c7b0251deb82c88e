import MetricIntake.Source.Basic

/-!
# Resolvers

A `Resolver` remembers the one client of each source id.  `Resolver.client?` is the client,
`Resolver.bind` remembers one, and `Resolver.drop` forgets some.  All ids ever looked for are kept
in order, since that is the order in which everything is forgotten.
-/

namespace MetricIntake

/-- The clients that are bound to source ids. -/
structure Resolver (ω : Type) where
  clients : List (String × Client ω)
  /-- Every id that was looked for or forgotten, in the order of its first appearance. -/
  known : List String
  /-- The number of the next client. -/
  next : Nat

namespace Resolver

variable {ω : Type}

/-- No clients. -/
def empty : Resolver ω := { clients := [], known := [], next := 0 }

/-- The client of an id. -/
def client? (r : Resolver ω) (id : String) : Option (Client ω) :=
  Named.lookup id r.clients

/-- The id is known from now on. -/
def note (r : Resolver ω) (id : String) : Resolver ω :=
  if r.known.contains id then r else { r with known := r.known ++ [id] }

/-- A new client for an id. -/
def bind (r : Resolver ω) (id : String) (source : Source ω) : Client ω × Resolver ω :=
  let client : Client ω := { serial := r.next, source }
  (client, { r with clients := Named.put id client r.clients, next := r.next + 1 })

/-- The id has no client any more. -/
def unbind (r : Resolver ω) (id : String) : Resolver ω :=
  { r with clients := r.clients.filter (·.1 ≠ id) }

/-- The clients of some ids, which have none any more. -/
def drop (r : Resolver ω) : List String → List (Client ω) × Resolver ω
  | [] => ([], r)
  | id :: ids =>
    let (dropped, rest) := ((r.note id).unbind id).drop ids
    match r.client? id with
    | some client => (client :: dropped, rest)
    | none => (dropped, rest)

/-- The client of one id, or those of all known ids, forgotten. -/
def reset (r : Resolver ω) : Option String → List (Client ω) × Resolver ω
  | some id => r.drop [id]
  | none => r.drop r.known

/-- What is said about a source that cannot be built. -/
def failedRecord (id : String) (e : SourceError) : LogRecord :=
  ⟨.error, .resolver, "Could not initialize source " ++ id ++ ": " ++ e.message⟩

/-- What is said about a new client. -/
def builtRecord (client : Client ω) : LogRecord :=
  ⟨.info, .resolver, "Initialized " ++ client.source.title⟩

end Resolver

end MetricIntake
