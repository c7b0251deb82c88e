import MetricIntake.Proofs.Grouping
import MetricIntake.Proofs.Visit

/-!
# Runs

A run is a list of `Command`s: batches to process, clients to forget, a shutdown, and what happens
between calls without the worker's doing.  `Intake.run` is where a run ends, `calls` the batches of
a run with the intakes that they find, `Call.turns` the sources of a call in their order, and
`visits` all requests of a run in their turns.

`Trail` is the view of a run that invariants need: visits, and between them small steps that are no
visits.  `trail_run` says that every run is one, and `Trail.split` that every visit of a trail has
the visits before it as its past.
-/

namespace MetricIntake

variable {ω : Type}

/-! ### Finding a client and its cache -/

/-- The event is that a client or its cache is found, and not that a source is asked. -/
def Event.isBinding : Event → Bool
  | .built _ => true
  | .connected _ => true
  | .asked _ _ _ => false
  | .requested _ => false

namespace Intake

variable (s : Surroundings ω) (k : Intake ω)

/-- Finding a client changes the world outside, the resolver and the events. -/
theorem resolve_quiet (id : String) :
    (k.resolve s id).2.quiet =
      { k with
        outside := (k.resolve s id).2.outside
        resolver := (k.resolve s id).2.resolver
        events := (k.resolve s id).2.events }.quiet := by
  unfold resolve
  split
  · rfl
  · dsimp only
    split <;> rfl

/-- Finding a cache changes the world outside, the caches and the events. -/
theorem cacheOf_quiet (client : Client ω) :
    (k.cacheOf s client).2.quiet =
      { k with
        outside := (k.cacheOf s client).2.outside
        caches := (k.cacheOf s client).2.caches
        events := (k.cacheOf s client).2.events }.quiet := by
  unfold cacheOf
  split
  · rfl
  · dsimp only
    split <;> rfl

/-- Any other part of an intake stays when a client is found. -/
theorem resolve_part {α : Type} (f : Intake ω → α)
    (hf : ∀ (k : Intake ω) outside resolver events,
      f { k with outside := outside, resolver := resolver, events := events }.quiet = f k)
    (id : String) : f (k.resolve s id).2 = f k :=
  calc f (k.resolve s id).2 = f (k.resolve s id).2.quiet := (hf _ _ _ _).symm
    _ = f k := by rw [resolve_quiet, hf]

/-- Any other part of an intake stays when a cache is found. -/
theorem cacheOf_part {α : Type} (f : Intake ω → α)
    (hf : ∀ (k : Intake ω) outside caches events,
      f { k with outside := outside, caches := caches, events := events }.quiet = f k)
    (client : Client ω) : f (k.cacheOf s client).2 = f k :=
  calc f (k.cacheOf s client).2 = f (k.cacheOf s client).2.quiet := (hf _ _ _ _).symm
    _ = f k := by rw [cacheOf_quiet, hf]

@[simp]
theorem resolve_store (id : String) : (k.resolve s id).2.store = k.store :=
  k.resolve_part s Intake.store (fun _ _ _ _ => rfl) id

@[simp]
theorem resolve_caches (id : String) : (k.resolve s id).2.caches = k.caches :=
  k.resolve_part s Intake.caches (fun _ _ _ _ => rfl) id

@[simp]
theorem resolve_metrics (id : String) : (k.resolve s id).2.metrics = k.metrics :=
  k.resolve_part s Intake.metrics (fun _ _ _ _ => rfl) id

@[simp]
theorem cacheOf_store (client : Client ω) : (k.cacheOf s client).2.store = k.store :=
  k.cacheOf_part s Intake.store (fun _ _ _ _ => rfl) client

@[simp]
theorem cacheOf_resolver (client : Client ω) : (k.cacheOf s client).2.resolver = k.resolver :=
  k.cacheOf_part s Intake.resolver (fun _ _ _ _ => rfl) client

@[simp]
theorem cacheOf_metrics (client : Client ω) : (k.cacheOf s client).2.metrics = k.metrics :=
  k.cacheOf_part s Intake.metrics (fun _ _ _ _ => rfl) client

@[simp]
theorem resolve_stopping (id : String) : (k.resolve s id).2.stopping = k.stopping :=
  k.resolve_part s Intake.stopping (fun _ _ _ _ => rfl) id

@[simp]
theorem cacheOf_stopping (client : Client ω) : (k.cacheOf s client).2.stopping = k.stopping :=
  k.cacheOf_part s Intake.stopping (fun _ _ _ _ => rfl) client

/-- No source is asked while a client is found. -/
theorem resolve_events (id : String) :
    ∃ more, (k.resolve s id).2.events = k.events ++ more ∧ ∀ e ∈ more, e.isBinding = true := by
  unfold resolve
  split
  · exact ⟨[], (List.append_nil _).symm, fun _ he => absurd he List.not_mem_nil⟩
  · refine ⟨[.built id], ?_, by simp [Event.isBinding]⟩
    dsimp only
    split <;> rfl

/-- No source is asked while a cache is found. -/
theorem cacheOf_events (client : Client ω) :
    ∃ more, (k.cacheOf s client).2.events = k.events ++ more ∧ ∀ e ∈ more, e.isBinding = true := by
  unfold cacheOf
  split
  · exact ⟨[], (List.append_nil _).symm, fun _ he => absurd he List.not_mem_nil⟩
  · refine ⟨[.connected s.storeUrl], ?_, by simp [Event.isBinding]⟩
    dsimp only
    split <;> rfl

variable {s k}

/-- A client that was found is bound to its id. -/
theorem client?_of_resolve {id : String} {client : Client ω}
    (h : (k.resolve s id).1 = .ok (some client)) :
    (k.resolve s id).2.resolver.client? id = some client := by
  unfold resolve at h ⊢
  split at h
  · rename_i bound hbound
    cases h
    exact hbound
  · dsimp only at h ⊢
    split at h
    · cases h
    · cases h
    · cases h
      exact (Named.lookup_put id id _ _).trans (if_pos rfl)

/-- A cache that was found is bound to its client. -/
theorem cache?_of_cacheOf {client : Client ω} {bound : BoundCache}
    (h : (k.cacheOf s client).1 = .ok bound) :
    (k.cacheOf s client).2.caches.cache? client.serial = some bound := by
  unfold cacheOf at h ⊢
  split at h
  · rename_i found hfound
    cases h
    exact hfound
  · rename_i hnone
    dsimp only at h ⊢
    split at h
    · cases h
    · cases h
      have hnone' : k.caches.bindings.find? (·.client = client.serial) = none := hnone
      simp [CacheRegistry.bind, CacheRegistry.cache?, emit, hnone']

end Intake

/-! ### Commands -/

/-- What happens between calls without the worker's doing. -/
structure Interlude (ω : Type) where
  /-- The world outside moves on. -/
  outside : ω → ω
  clock : Clock → Clock
  /-- The keys whose entries expire. -/
  expired : List String
  /-- What is said from now on of a failing access to the store, if it fails. -/
  readFailure : Option String
  writeFailure : Option String

/-- Something that is done to a worker, or that happens around it. -/
inductive Command (ω : Type)
  | process (batch : List Request)
  | reset (id? : Option String)
  | trigger
  | elapse (i : Interlude ω)

namespace Intake

/-- Entries expire and the store goes down or comes back. -/
def elapse (i : Interlude ω) (k : Intake ω) : Intake ω :=
  { k with
    outside := i.outside k.outside
    clock := i.clock k.clock
    store := { i.expired.foldl Store.erase k.store with
      readFailure := i.readFailure
      writeFailure := i.writeFailure } }

/-- The intake after a command. -/
def perform (s : Surroundings ω) (k : Intake ω) : Command ω → Intake ω
  | .process batch => (k.process s batch).2
  | .reset id? => k.reset id?
  | .trigger => k.trigger
  | .elapse i => k.elapse i

/-- The intake at the end of a run. -/
def run (s : Surroundings ω) (commands : List (Command ω)) (k : Intake ω) : Intake ω :=
  commands.foldl (perform s) k

end Intake

/-! ### Turns and calls -/

/-- The visits of requests, one after another, until one ends the work on its source. -/
def visitsOf (client : Client ω) (cache : Cache) : List Request → Intake ω → List (Visit ω)
  | [], _ => []
  | r :: rest, k =>
    let v : Visit ω := { request := r, client, cache, before := k }
    v :: match v.answer with
      | .ok _ => visitsOf client cache rest v.after
      | .error _ => []

/-- A source whose turn it is: its requests, and the intake that it finds. -/
structure Turn (ω : Type) where
  id : String
  requests : List Request
  before : Intake ω

namespace Turn

/-- The client of the source, if it can be built. -/
def client? (s : Surroundings ω) (t : Turn ω) : Except Failure (Option (Client ω)) :=
  (t.before.resolve s t.id).1

/-- The rows of the source. -/
def rows (s : Surroundings ω) (t : Turn ω) : Except Failure (List (List Reading)) :=
  (t.before.processSource s t.id t.requests).1

/-- The intake after the turn. -/
def after (s : Surroundings ω) (t : Turn ω) : Intake ω :=
  (t.before.processSource s t.id t.requests).2

/-- The requests of the source in their turns. -/
def visits (s : Surroundings ω) (t : Turn ω) : List (Visit ω) :=
  match t.before.resolve s t.id with
  | (.ok (some client), k) =>
    match k.cacheOf s client with
    | (.ok bound, k) => visitsOf client bound.cache t.requests k
    | (.error _, _) => []
  | _ => []

end Turn

/-- The turns of some sources of a batch. -/
def turnsOf (s : Surroundings ω) (batch : List Request) : List String → Intake ω → List (Turn ω)
  | [], _ => []
  | id :: ids, k =>
    let t : Turn ω := { id, requests := requestsOf id batch, before := k }
    t :: turnsOf s batch ids (t.after s)

/-- A batch that is to be processed, and the intake that it finds. -/
structure Call (ω : Type) where
  batch : List Request
  before : Intake ω

namespace Call

/-- The rows of the batch. -/
def rows (s : Surroundings ω) (c : Call ω) : Except Failure (List (List Reading)) :=
  (c.before.process s c.batch).1

/-- The sources of the batch in their turns. -/
def turns (s : Surroundings ω) (c : Call ω) : List (Turn ω) :=
  turnsOf s c.batch (batchSources c.batch) c.before

/-- The requests of the batch in their turns. -/
def visits (s : Surroundings ω) (c : Call ω) : List (Visit ω) :=
  (c.turns s).flatMap (·.visits s)

end Call

/-- The batches of a run, with the intakes that they find. -/
def calls (s : Surroundings ω) : List (Command ω) → Intake ω → List (Call ω)
  | [], _ => []
  | command :: rest, k =>
    let more := calls s rest (k.perform s command)
    match command with
    | .process batch => { batch, before := k } :: more
    | _ => more

/-- All requests of a run in their turns. -/
def visits (s : Surroundings ω) (commands : List (Command ω)) (k : Intake ω) : List (Visit ω) :=
  (calls s commands k).flatMap (·.visits s)

/-! ### What a call is made of -/

section Equations

variable {s : Surroundings ω}

/-- A request that ends the work on its source. -/
theorem processRequests_of_error {v : Visit ω} {f : Failure} (h : v.answer = .error f)
    (rest : List Request) :
    v.before.processRequests v.client v.cache (v.request :: rest) = (.error f, v.after) ∧
      visitsOf v.client v.cache (v.request :: rest) v.before = [v] := by
  constructor
  · rw [Intake.processRequests, Visit.after]
    rcases hp : v.before.processRequest v.request v.client v.cache with ⟨answer, k⟩
    rw [Visit.answer, hp] at h
    cases h
    rfl
  · rw [visitsOf]
    show v :: (match v.answer with | .ok _ => _ | .error _ => []) = [v]
    rw [h]

/-- A request after which the work on its source goes on. -/
theorem processRequests_of_ok {v : Visit ω} {reading? : Option Reading}
    (h : v.answer = .ok reading?) (rest : List Request) :
    v.before.processRequests v.client v.cache (v.request :: rest) =
        ((v.after.processRequests v.client v.cache rest).1.map
            ((reading?.map fun reading => [reading]).toList ++ ·),
          (v.after.processRequests v.client v.cache rest).2) ∧
      visitsOf v.client v.cache (v.request :: rest) v.before =
        v :: visitsOf v.client v.cache rest v.after := by
  constructor
  · rw [Intake.processRequests, Visit.after]
    rcases hp : v.before.processRequest v.request v.client v.cache with ⟨answer, k⟩
    rw [Visit.answer, hp] at h
    cases h
    dsimp only
    rcases k.processRequests v.client v.cache rest with ⟨f | rows, k'⟩ <;> rfl
  · rw [visitsOf]
    show v :: (match v.answer with | .ok _ => _ | .error _ => []) = _
    rw [h]

/-- A source with a single request ends with it. -/
theorem processRequests_single (v : Visit ω) :
    (v.before.processRequests v.client v.cache [v.request]).2 = v.after ∧
      visitsOf v.client v.cache [v.request] v.before = [v] := by
  cases h : v.answer with
  | error f =>
    obtain ⟨hp, hvs⟩ := processRequests_of_error h []
    exact ⟨congrArg Prod.snd hp, hvs⟩
  | ok reading? =>
    obtain ⟨hp, hvs⟩ := processRequests_of_ok h []
    exact ⟨congrArg Prod.snd hp, hvs⟩

/-- A turn without a client is one failure. -/
theorem Turn.eq_of_none {t : Turn ω} (h : t.client? s = .ok none) :
    t.rows s = .ok [] ∧ t.visits s = [] ∧ ∃ records,
      t.after s = ((t.before.resolve s t.id).2.say records).count .failed := by
  rcases hr : t.before.resolve s t.id with ⟨client?, k⟩
  rw [Turn.client?, hr] at h
  cases h
  rw [Turn.rows, Turn.visits, Turn.after, Intake.processSource, hr]
  exact ⟨rfl, rfl, _, rfl⟩

/-- A turn whose source raised ends there. -/
theorem Turn.eq_of_error {t : Turn ω} {f : Failure} (h : t.client? s = .error f) :
    t.rows s = .error f ∧ t.visits s = [] ∧ t.after s = (t.before.resolve s t.id).2 := by
  rcases hr : t.before.resolve s t.id with ⟨client?, k⟩
  rw [Turn.client?, hr] at h
  cases h
  rw [Turn.rows, Turn.visits, Turn.after, Intake.processSource, hr]
  exact ⟨rfl, rfl, rfl⟩

/-- A turn with a client goes to its cache, which may fail, and then to the requests. -/
theorem Turn.eq_of_some {t : Turn ω} {client : Client ω} (h : t.client? s = .ok (some client)) :
    (∃ f, ((t.before.resolve s t.id).2.cacheOf s client).1 = .error f ∧ t.rows s = .error f ∧
      t.visits s = [] ∧ t.after s = ((t.before.resolve s t.id).2.cacheOf s client).2) ∨
    (∃ bound, ((t.before.resolve s t.id).2.cacheOf s client).1 = .ok bound ∧
      t.rows s = (((t.before.resolve s t.id).2.cacheOf s client).2.processRequests
        client bound.cache t.requests).1 ∧
      t.after s = (((t.before.resolve s t.id).2.cacheOf s client).2.processRequests
        client bound.cache t.requests).2 ∧
      t.visits s = visitsOf client bound.cache t.requests
        ((t.before.resolve s t.id).2.cacheOf s client).2) := by
  rcases hr : t.before.resolve s t.id with ⟨client?, k⟩
  rw [Turn.client?, hr] at h
  cases h
  rw [Turn.rows, Turn.visits, Turn.after, Intake.processSource, hr]
  dsimp only
  rcases hb : k.cacheOf s client with ⟨bound?, k'⟩
  cases bound? with
  | error f => exact .inl ⟨f, rfl, rfl, rfl, rfl⟩
  | ok bound => exact .inr ⟨bound, rfl, rfl, rfl, rfl⟩

theorem processSources_cons (batch : List Request) (id : String) (ids : List String)
    (k : Intake ω) :
    k.processSources s batch (id :: ids) =
      let t : Turn ω := { id, requests := requestsOf id batch, before := k }
      ((id, t.rows s) :: ((t.after s).processSources s batch ids).1,
        ((t.after s).processSources s batch ids).2) :=
  rfl

theorem process_snd (batch : List Request) (k : Intake ω) :
    ∃ records, (k.process s batch).2 =
      (k.processSources s batch (batchSources batch)).2.say records :=
  ⟨_, rfl⟩

/-- Each source has its turn, whatever became of the others. -/
theorem map_id_turnsOf (batch : List Request) (ids : List String) (k : Intake ω) :
    (turnsOf s batch ids k).map (·.id) = ids := by
  induction ids generalizing k with
  | nil => rfl
  | cons id ids ih =>
    rw [turnsOf, List.map_cons]
    exact congrArg (id :: ·) (ih _)

theorem requests_of_mem_turnsOf {batch : List Request} {ids : List String} {k : Intake ω}
    {t : Turn ω} (h : t ∈ turnsOf s batch ids k) : t.requests = requestsOf t.id batch := by
  induction ids generalizing k with
  | nil => cases h
  | cons id ids ih =>
    rcases List.mem_cons.1 h with rfl | h
    · rfl
    · exact ih h

theorem processSources_fst (batch : List Request) (ids : List String) (k : Intake ω) :
    (k.processSources s batch ids).1 =
      (turnsOf s batch ids k).map fun t => (t.id, t.rows s) := by
  induction ids generalizing k with
  | nil => rfl
  | cons id ids ih =>
    rw [processSources_cons, turnsOf, List.map_cons]
    exact congrArg _ (ih _)

/-- There are rows just if every source has rows, and they are those of the sources, one source
after another. -/
theorem gather_eq_ok_iff {outcomes : List (String × Except Failure (List (List Reading)))}
    {rows : List (List Reading)} :
    Intake.gather outcomes = .ok rows ↔
      ∃ parts : List (List (List Reading)),
        outcomes.map Prod.snd = parts.map Except.ok ∧ rows = parts.flatten := by
  induction outcomes generalizing rows with
  | nil =>
    constructor
    · rintro ⟨⟩
      exact ⟨[], rfl, rfl⟩
    · rintro ⟨parts, hparts, rfl⟩
      rw [List.map_eq_nil_iff.1 hparts.symm]
      rfl
  | cons outcome outcomes ih =>
    obtain ⟨id, f | part⟩ := outcome
    · constructor
      · rintro ⟨⟩
      · rintro ⟨_ | ⟨part, parts⟩, hparts, -⟩ <;> simp at hparts
    · constructor
      · intro h
        rw [Intake.gather] at h
        split at h
        · rename_i more hmore
          obtain ⟨parts, hparts, rfl⟩ := ih.1 hmore
          obtain rfl := Except.ok.inj h
          exact ⟨part :: parts, congrArg (Except.ok part :: ·) hparts, rfl⟩
        · cases h
      · rintro ⟨_ | ⟨part', parts⟩, hparts, rfl⟩
        · cases hparts
        · obtain ⟨hpart, hrest⟩ := List.cons.inj hparts
          obtain rfl := Except.ok.inj hpart
          rw [Intake.gather, ih.2 ⟨parts, hrest, rfl⟩]
          rfl

theorem Call.rows_eq_ok_iff {c : Call ω} {rows : List (List Reading)} :
    c.rows s = .ok rows ↔
      ∃ parts : List (List (List Reading)),
        (c.turns s).map (·.rows s) = parts.map Except.ok ∧ rows = parts.flatten := by
  rw [Call.rows, Intake.process, gather_eq_ok_iff, processSources_fst, List.map_map]
  exact Iff.rfl

end Equations

/-! ### Trails -/

/-- The client and the cache of a visit are those bound to the source of its request. -/
structure Visit.Attached (v : Visit ω) : Prop where
  client : v.before.resolver.client? v.request.source = some v.client
  cache : ∃ bound, v.before.caches.cache? v.client.serial = some bound ∧ bound.cache = v.cache

/-- One thing that happens to an intake and is not a visit. -/
inductive Step (s : Surroundings ω) : Intake ω → Intake ω → Prop
  | say (k : Intake ω) (records : List LogRecord) : Step s k (k.say records)
  | resolve (k : Intake ω) (id : String) : Step s k (k.resolve s id).2
  | connect {k : Intake ω} {id : String} {client : Client ω}
      (h : k.resolver.client? id = some client) : Step s k (k.cacheOf s client).2
  /-- A source has no client. -/
  | miss (k : Intake ω) : Step s k (k.count .failed)
  | reset (k : Intake ω) (id? : Option String) : Step s k (k.reset id?)
  | trigger (k : Intake ω) : Step s k k.trigger
  | elapse (k : Intake ω) (i : Interlude ω) : Step s k (k.elapse i)

/-- Visits one after another, from the intake that the first one finds to the one at the end, with
any steps between them. -/
inductive Trail (s : Surroundings ω) : Intake ω → List (Visit ω) → Intake ω → Prop
  | nil (k : Intake ω) : Trail s k [] k
  | step {k k' m : Intake ω} {vs : List (Visit ω)} :
      Step s k k' → Trail s k' vs m → Trail s k vs m
  | visit {v : Visit ω} {m : Intake ω} {vs : List (Visit ω)} :
      v.Attached → Trail s v.after vs m → Trail s v.before (v :: vs) m

namespace Trail

variable {s : Surroundings ω}

theorem append {k m n : Intake ω} {vs ws : List (Visit ω)} (h : Trail s k vs m)
    (h' : Trail s m ws n) : Trail s k (vs ++ ws) n := by
  induction h with
  | nil k => exact h'
  | step hstep _ ih => exact .step hstep (ih h')
  | visit hv _ ih => exact .visit hv (ih h')

theorem single {k k' : Intake ω} (h : Step s k k') : Trail s k [] k' :=
  .step h (.nil k')

/-- A visit of a trail finds what the visits before it left. -/
theorem split {k m : Intake ω} {past rest : List (Visit ω)} {v : Visit ω}
    (h : Trail s k (past ++ v :: rest) m) :
    Trail s k past v.before ∧ v.Attached ∧ Trail s v.after rest m := by
  -- the visit is the first one of the trail or in the rest of it
  generalize hvs : past ++ v :: rest = vs at h
  induction h generalizing past with
  | nil k => exact absurd hvs (by simp)
  | step hstep _ ih =>
    obtain ⟨hpast, hv, hrest⟩ := ih hvs
    exact ⟨.step hstep hpast, hv, hrest⟩
  | @visit w m ws hw hrest ih =>
    cases past with
    | nil =>
      obtain ⟨rfl, rfl⟩ := List.cons.inj hvs
      exact ⟨.nil _, hw, hrest⟩
    | cons u past =>
      obtain ⟨rfl, hws⟩ := List.cons.inj hvs
      obtain ⟨hpast, hv, hrest'⟩ := ih hws
      exact ⟨.visit hw hpast, hv, hrest'⟩

end Trail

section Trails

variable {s : Surroundings ω}

/-- The requests of a source leave its client and its cache bound. -/
theorem trail_visitsOf {client : Client ω} {cache : Cache} {id : String} (requests : List Request)
    (hid : ∀ r ∈ requests, r.source = id) (k : Intake ω)
    (hclient : k.resolver.client? id = some client)
    (hcache : ∃ bound, k.caches.cache? client.serial = some bound ∧ bound.cache = cache) :
    Trail s k (visitsOf client cache requests k) (k.processRequests client cache requests).2 := by
  induction requests generalizing k with
  | nil => exact .nil k
  | cons r rest ih =>
    let v : Visit ω := { request := r, client, cache, before := k }
    have hsource : r.source = id := hid r List.mem_cons_self
    have hv : v.Attached := ⟨by rw [hsource]; exact hclient, hcache⟩
    cases hanswer : v.answer with
    | error f =>
      obtain ⟨hp, hvs⟩ := processRequests_of_error hanswer rest
      rw [hvs, hp]
      exact .visit hv (.nil _)
    | ok reading? =>
      obtain ⟨hp, hvs⟩ := processRequests_of_ok hanswer rest
      rw [hvs, hp]
      -- the bindings are still there for the next request
      refine .visit hv (ih (fun r hr => hid r (List.mem_cons_of_mem _ hr)) v.after ?_ ?_)
      · rw [v.after_resolver]
        exact hclient
      · rw [v.after_caches]
        exact hcache

theorem trail_turn (t : Turn ω) (hid : ∀ r ∈ t.requests, r.source = t.id) :
    Trail s t.before (t.visits s) (t.after s) := by
  have hresolve : Trail s t.before [] (t.before.resolve s t.id).2 := .single (.resolve _ _)
  cases hc : t.client? s with
  | error f =>
    -- the source raised as it was built
    obtain ⟨-, hvs, hafter⟩ := Turn.eq_of_error hc
    rw [hvs, hafter]
    exact hresolve
  | ok client? =>
    cases client? with
    | none =>
      obtain ⟨-, hvs, records, hafter⟩ := Turn.eq_of_none hc
      rw [hvs, hafter]
      exact hresolve.append (.step (.say _ _) (.single (.miss _)))
    | some client =>
      have hbound := Intake.client?_of_resolve hc
      have hconnect := hresolve.append (.single (.connect hbound))
      obtain ⟨f, -, -, hvs, hafter⟩ | ⟨bound, hb, -, hafter, hvs⟩ := Turn.eq_of_some hc
      · rw [hvs, hafter]
        exact hconnect
      · rw [hvs, hafter]
        refine hconnect.append (trail_visitsOf t.requests hid _ ?_ ?_)
        · rw [Intake.cacheOf_resolver]
          exact hbound
        · exact ⟨bound, Intake.cache?_of_cacheOf hb, rfl⟩

theorem trail_turnsOf (batch : List Request) (ids : List String) (k : Intake ω) :
    Trail s k ((turnsOf s batch ids k).flatMap (·.visits s)) (k.processSources s batch ids).2 := by
  induction ids generalizing k with
  | nil => exact .nil k
  | cons id ids ih =>
    rw [processSources_cons]
    exact (trail_turn { id, requests := requestsOf id batch, before := k }
      fun r hr => (mem_requestsOf.1 hr).2).append (ih _)

theorem trail_call (c : Call ω) : Trail s c.before (c.visits s) (c.before.process s c.batch).2 := by
  obtain ⟨records, h⟩ := process_snd (s := s) c.batch c.before
  rw [h, ← List.append_nil (c.visits s)]
  exact (trail_turnsOf c.batch (batchSources c.batch) c.before).append (.single (.say _ _))

/-- **Every run is a trail of its visits.** -/
theorem trail_run (commands : List (Command ω)) (k : Intake ω) :
    Trail s k (visits s commands k) (k.run s commands) := by
  induction commands generalizing k with
  | nil => exact .nil k
  | cons command rest ih =>
    cases command with
    | process batch =>
      exact (trail_call { batch, before := k }).append (ih _)
    | reset id? => exact .step (.reset k id?) (ih _)
    | trigger => exact .step (.trigger k) (ih _)
    | elapse i => exact .step (.elapse k i) (ih _)

/-- A visit of a run finds what a trail of the visits before it left. -/
theorem trail_of_visits {commands : List (Command ω)} {k : Intake ω} {past rest : List (Visit ω)}
    {v : Visit ω} (h : visits s commands k = past ++ v :: rest) :
    Trail s k past v.before ∧ v.Attached ∧ Trail s v.after rest (k.run s commands) :=
  Trail.split (h ▸ trail_run commands k)

end Trails

end MetricIntake
