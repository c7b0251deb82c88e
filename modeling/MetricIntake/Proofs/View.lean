import MetricIntake.Proofs.Alike
import MetricIntake.Proofs.Bindings
import MetricIntake.Proofs.StoreKeys

/-!
# Views

An `Intake.view` is what one source has to do with an intake: its own part of the world outside, the
entries under its keys, its client and cache, the calls to it and its timer, and what all sources
share but none changes.  If sources are kept apart (`Surroundings.Apart`), a request leaves the
views of other sources as they are (`Visit.after_view_of_ne`), and what becomes of it depends on
nothing but the view of its own: `Visit.Twins.alike` and `Visit.Twins.after_view`.
-/

namespace MetricIntake

variable {ω π : Type}

/-! ### Sources that are kept apart -/

/-- What a source answers depends on its own part of the world outside, and changes nothing else. -/
structure Source.Private (part : String → ω → π) (source : Source ω) : Prop where
  reply_eq : ∀ ⦃w w'⦄, part source.id w = part source.id w' → ∀ name now,
    (source.ask name now w).1 = (source.ask name now w').1
  own_eq : ∀ ⦃w w'⦄, part source.id w = part source.id w' → ∀ name now,
    part source.id (source.ask name now w).2 = part source.id (source.ask name now w').2
  other_eq : ∀ ⦃id⦄, id ≠ source.id → ∀ name now w, part id (source.ask name now w).2 = part id w
  /-- No answer ends in a shutdown. -/
  steady : ∀ name now w, (source.ask name now w).1.stops = false

/-- Each source has its own part of the world outside, and the store can always be reached. -/
structure Surroundings.Apart (s : Surroundings ω) (part : String → ω → π) : Prop where
  carries : s.Carries
  build_eq : ∀ ⦃id w w'⦄, part id w = part id w' → (s.build id w).1 = (s.build id w').1
  build_own_eq : ∀ ⦃id w w'⦄, part id w = part id w' →
    part id (s.build id w).2 = part id (s.build id w').2
  build_other_eq : ∀ ⦃id other⦄, other ≠ id → ∀ w, part other (s.build id w).2 = part other w
  build_private : ∀ ⦃id w source⦄, (s.build id w).1 = .ok source → source.Private part
  connect_ok : ∀ w, (s.connect w).1 = .ok ()
  connect_eq : ∀ id w, part id (s.connect w).2 = part id w

/-- The sources of all clients keep to their own part. -/
def Intake.Private (part : String → ω → π) (k : Intake ω) : Prop :=
  ∀ ⦃id client⦄, k.resolver.client? id = some client → client.source.Private part

/-! ### Views -/

/-- The event is a call to the source. -/
def Event.isCallTo (id : String) : Event → Bool
  | .asked _ other _ => other = id
  | _ => false

/-- What one source has to do with an intake. -/
@[ext]
structure View (ω π : Type) where
  own : π
  /-- What is kept under each key of the source's cache. -/
  entries : String → Option Entry
  readFailure : Option String
  writeFailure : Option String
  stopping : Bool
  now : UtcTime
  /-- The client and its cache. -/
  binding : Option (Source ω × Option Cache)
  /-- The calls to the source in their order. -/
  calls : List Event
  /-- How often the source's timer was used. -/
  timed : Nat

namespace Intake

/-- The source and the cache that an id is bound to. -/
def bindingOf (id : String) (k : Intake ω) : Option (Source ω × Option Cache) :=
  (k.resolver.client? id).map fun client =>
    (client.source, (k.caches.cache? client.serial).map (·.cache))

/-- What the source with an id has to do with the intake. -/
def view (s : Surroundings ω) (part : String → ω → π) (id : String) (k : Intake ω) : View ω π :=
  { own := part id k.outside
    entries := fun key => k.store.get? ((s.cache id).storeKey key)
    readFailure := k.store.readFailure
    writeFailure := k.store.writeFailure
    stopping := k.stopping
    now := k.clock.now
    binding := k.bindingOf id
    calls := k.events.filter (·.isCallTo id)
    timed := (k.metrics.latency (timerName id)).count }

section View

variable (s : Surroundings ω) (part : String → ω → π) (id : String) (k : Intake ω)

/-- To find a client is seen only in what is outside, in the bindings and in the events. -/
theorem resolve_view_eq (other : String) :
    (k.resolve s other).2.view s part id =
      { k.view s part id with
        own := part id (k.resolve s other).2.outside
        binding := (k.resolve s other).2.bindingOf id
        calls := (k.resolve s other).2.events.filter (·.isCallTo id) } := by
  have h := eq_of_quiet (view s part id) (fun _ => rfl) (k.resolve_quiet s other)
  rw [bindingOf, resolve_caches]
  exact h

/-- To find a cache is seen only in what is outside, in the bindings and in the events. -/
theorem cacheOf_view_eq (client : Client ω) :
    (k.cacheOf s client).2.view s part id =
      { k.view s part id with
        own := part id (k.cacheOf s client).2.outside
        binding := (k.cacheOf s client).2.bindingOf id
        calls := (k.cacheOf s client).2.events.filter (·.isCallTo id) } := by
  have h := eq_of_quiet (view s part id) (fun _ => rfl) (k.cacheOf_quiet s client)
  rw [bindingOf, cacheOf_resolver]
  exact h

end View

end Intake

/-- A duration of a timer counts for that timer and no other. -/
theorem Metrics.latency_record (m : Metrics) (timer other : String) (millis : Double) :
    (m.record timer millis).latency other =
      if other = timer then (m.latency timer).record millis else m.latency other := by
  rw [latency, record]
  dsimp only
  rw [Named.lookup_put]
  split
  · rfl
  · rfl

theorem timerName_inj {id id' : String} (h : Intake.timerName id = Intake.timerName id') :
    id = id' :=
  (String.append_right_inj _).1 h

/-- A request that asks its source is one call to it and none to any other source. -/
theorem Visit.after_calls (v : Visit ω) (id : String) :
    v.after.events.filter (·.isCallTo id) =
      v.before.events.filter (·.isCallTo id) ++
        if v.asks ∧ v.client.source.id = id then
          [.asked v.client.source.profile v.client.source.id v.request.name]
        else [] := by
  have hrequested : (v.reply.requests.map Event.requested).filter (·.isCallTo id) = [] := by
    rw [List.filter_map]
    exact List.map_eq_nil_iff.2 (List.filter_eq_nil_iff.2 fun _ _ h => Bool.false_ne_true h)
  rw [v.after_events, List.filter_append]
  congr 1
  by_cases hasks : v.asks = true
  · rw [if_pos hasks, List.filter_cons, hrequested]
    simp only [Event.isCallTo, decide_eq_true_eq, hasks, true_and]
  · rw [if_neg hasks, if_neg fun h => hasks h.1]
    rfl

/-- A request that asks its source is timed once by its timer and by no other. -/
theorem Visit.after_timed (v : Visit ω) (timer : String) :
    (v.after.metrics.latency timer).count =
      (v.before.metrics.latency timer).count +
        if v.asks ∧ Intake.timerName v.client.source.id = timer then 1 else 0 := by
  obtain ⟨millis, h⟩ := v.after_timers
  by_cases hasks : v.asks = true
  · rw [if_pos hasks] at h
    have hlatency : v.after.metrics.latency timer =
        (v.before.metrics.record (Intake.timerName v.client.source.id) millis).latency timer := by
      rw [Metrics.latency, h]
      rfl
    rw [hlatency, Metrics.latency_record]
    by_cases htimer : Intake.timerName v.client.source.id = timer
    · rw [if_pos htimer.symm, if_pos ⟨hasks, htimer⟩, htimer]
      rfl
    · rw [if_neg (Ne.symm htimer), if_neg fun h => htimer h.2]
      rfl
  · rw [if_neg hasks] at h
    rw [Metrics.latency, h, if_neg fun h => hasks h.1]
    rfl

/-! ### Requests of other sources -/

/-- A request leaves the view of each other source as it is. -/
theorem Visit.after_view_of_ne {s : Surroundings ω} {part : String → ω → π} {v : Visit ω}
    {id : String} (hne : id ≠ v.client.source.id) (hid : ':' ∉ id.toList)
    (hsource : ':' ∉ v.client.source.id.toList)
    (hcache : v.cache = s.cache v.client.source.id)
    (hprivate : v.client.source.Private part) :
    v.after.view s part id = v.before.view s part id := by
  have hkeys : ∀ key, (s.cache id).storeKey key ≠ v.storeKey := by
    intro key h
    rw [Visit.storeKey, hcache] at h
    exact hne (storeKey_source_inj hid hsource h).1
  -- one goal for each field of the view, in their order
  ext1
  · show part id v.after.outside = part id v.before.outside
    rw [v.after_outside]
    split
    · exact hprivate.other_eq hne _ _ _
    · rfl
  · show (fun key => v.after.store.get? _) = fun key => v.before.store.get? _
    funext key
    exact v.after_get?_of_ne (hkeys key)
  · exact v.after_failures.1
  · exact v.after_failures.2
  · show v.after.stopping = v.before.stopping
    rw [v.after_stopping, reply, Intake.replyOf, hprivate.steady, Bool.and_false, Bool.or_false]
  · exact v.after_now
  · show v.after.bindingOf id = v.before.bindingOf id
    rw [Intake.bindingOf, v.after_resolver, v.after_caches]
    rfl
  · show v.after.events.filter _ = v.before.events.filter _
    rw [v.after_calls, if_neg fun h => hne h.2.symm, List.append_nil]
  · show (v.after.metrics.latency _).count = (v.before.metrics.latency _).count
    rw [v.after_timed, if_neg fun h => hne (timerName_inj h.2).symm]
    rfl

/-! ### Requests of the same source -/

/-- The same request in two intakes that are alike to its source. -/
structure Visit.Twins (s : Surroundings ω) (part : String → ω → π) (id : String)
    (v v' : Visit ω) : Prop where
  request : v.request = v'.request
  source : v.client.source = v'.client.source
  carries : v.client.source.id = id
  cache : v.cache = s.cache id
  cache' : v'.cache = s.cache id
  keepsApart : v.client.source.Private part
  view : v.before.view s part id = v'.before.view s part id

namespace Visit.Twins

variable {s : Surroundings ω} {part : String → ω → π} {id : String} {v v' : Visit ω}

theorem own (h : v.Twins s part id v') :
    part v.client.source.id v.before.outside = part v.client.source.id v'.before.outside := by
  rw [h.carries]
  exact congrArg View.own h.view

theorem now (h : v.Twins s part id v') : v.before.clock.now = v'.before.clock.now :=
  congrArg View.now h.view

theorem stopping (h : v.Twins s part id v') : v.before.stopping = v'.before.stopping :=
  congrArg View.stopping h.view

theorem entries (h : v.Twins s part id v') (key : String) :
    v.before.store.get? ((s.cache id).storeKey key) =
      v'.before.store.get? ((s.cache id).storeKey key) :=
  congrFun (congrArg View.entries h.view) key

theorem readFailure (h : v.Twins s part id v') :
    v.before.store.readFailure = v'.before.store.readFailure :=
  congrArg View.readFailure h.view

theorem writeFailure (h : v.Twins s part id v') :
    v.before.store.writeFailure = v'.before.store.writeFailure :=
  congrArg View.writeFailure h.view

theorem storeKey_eq (h : v.Twins s part id v') : v.storeKey = v'.storeKey := by
  rw [Visit.storeKey, Visit.storeKey, h.cache, h.cache', h.request]

theorem cached_eq (h : v.Twins s part id v') : v.cached = v'.cached := by
  rw [cached, cached, Cache.look, Cache.look, h.cache, h.cache', h.request, h.readFailure,
    h.entries]

theorem reply_eq (h : v.Twins s part id v') : v.reply = v'.reply := by
  rw [reply, reply, Intake.replyOf, Intake.replyOf, ← h.source, ← h.request, ← h.now]
  exact h.keepsApart.reply_eq h.own _ _

/-- All that a request depends on is in the view of its source. -/
theorem alike (h : v.Twins s part id v') : v.Alike v' :=
  ⟨h.request, h.cached_eq, h.stopping, h.now, h.reply_eq, h.writeFailure⟩

/-- The intakes are alike to the source after the request as well. -/
theorem after_view (h : v.Twins s part id v') :
    v.after.view s part id = v'.after.view s part id := by
  ext1
  · show part id v.after.outside = part id v'.after.outside
    rw [v.after_outside, v'.after_outside, h.alike.asks_eq, ← h.source, ← h.request, ← h.now]
    split
    · rw [← h.carries]
      exact h.keepsApart.own_eq h.own _ _
    · exact congrArg View.own h.view
  · show (fun key => v.after.store.get? _) = fun key => v'.after.store.get? _
    funext key
    exact h.alike.after_get? h.storeKey_eq (h.entries key)
  · show v.after.store.readFailure = v'.after.store.readFailure
    rw [v.after_failures.1, v'.after_failures.1, h.readFailure]
  · show v.after.store.writeFailure = v'.after.store.writeFailure
    rw [v.after_failures.2, v'.after_failures.2, h.writeFailure]
  · show v.after.stopping = v'.after.stopping
    rw [v.after_stopping, v'.after_stopping, h.stopping, h.alike.asks_eq, h.reply_eq]
  · show v.after.clock.now = v'.after.clock.now
    rw [v.after_now, v'.after_now, h.now]
  · show v.after.bindingOf id = v'.after.bindingOf id
    rw [Intake.bindingOf, Intake.bindingOf, v.after_resolver, v.after_caches, v'.after_resolver,
      v'.after_caches]
    exact congrArg View.binding h.view
  · show v.after.events.filter _ = v'.after.events.filter _
    rw [v.after_calls, v'.after_calls, h.alike.asks_eq, h.source, h.request]
    congr 1
    exact congrArg View.calls h.view
  · show (v.after.metrics.latency _).count = (v'.after.metrics.latency _).count
    rw [v.after_timed, v'.after_timed, h.alike.asks_eq, h.source]
    congr 1
    exact congrArg View.timed h.view

end Visit.Twins

/-! ### Views while a client and its cache are found -/

namespace Intake

variable {s : Surroundings ω} {part : String → ω → π} {id other : String} {k k' : Intake ω}

/-- To find the client of a source does not concern any other. -/
theorem resolve_view_of_ne (hs : s.Apart part) (hne : id ≠ other) :
    (k.resolve s other).2.view s part id = k.view s part id := by
  cases h : k.resolver.client? other with
  | some client => rw [resolve_of_some h]
  | none =>
    obtain ⟨-, houtside, hevents, hclients⟩ := resolve_of_none (s := s) h
    have hown : part id (k.resolve s other).2.outside = part id k.outside := by
      rw [houtside]
      exact hs.build_other_eq hne _
    have hbinding : (k.resolve s other).2.bindingOf id = k.bindingOf id := by
      rw [bindingOf, hclients, if_neg hne, resolve_caches]
      rfl
    have hcalls : (k.resolve s other).2.events.filter (·.isCallTo id) =
        k.events.filter (·.isCallTo id) := by
      rw [hevents, List.filter_append]
      exact List.append_nil _
    rw [resolve_view_eq]
    simp only [view, hown, hbinding, hcalls]

/-- To find the cache of a client does not concern any other source. -/
theorem cacheOf_view_of_ne (hs : s.Apart part) (hk : k.Sound s) {client : Client ω}
    (hclient : k.resolver.client? other = some client) (hne : id ≠ other) :
    (k.cacheOf s client).2.view s part id = k.view s part id := by
  cases h : k.caches.cache? client.serial with
  | some bound => rw [cacheOf_of_some h]
  | none =>
    obtain ⟨-, houtside, hevents, hcaches⟩ := cacheOf_of_none h (hs.connect_ok _)
    have hown : part id (k.cacheOf s client).2.outside = part id k.outside := by
      rw [houtside]
      exact hs.connect_eq id _
    have hcalls : (k.cacheOf s client).2.events.filter (·.isCallTo id) =
        k.events.filter (·.isCallTo id) := by
      rw [hevents, List.filter_append]
      exact List.append_nil _
    have hbinding : (k.cacheOf s client).2.bindingOf id = k.bindingOf id := by
      rw [bindingOf, bindingOf, cacheOf_resolver]
      cases hid : k.resolver.client? id with
      | none => rfl
      | some own =>
        -- clients of different ids have different numbers, so their caches are different ones
        have hserial : own.serial ≠ client.serial := fun heq => hne (hk.apart hid hclient heq)
        rw [Option.map_some, Option.map_some, hcaches, if_neg hserial]
    rw [cacheOf_view_eq]
    simp only [view, hown, hbinding, hcalls]

/-! ### A source finds its own client whatever others do -/

/-- Intakes that are alike to a source bind it to the same source. -/
theorem client?_of_view_eq (hview : k.view s part id = k'.view s part id) :
    (k.resolver.client? id = none ∧ k'.resolver.client? id = none) ∨
      ∃ client client', k.resolver.client? id = some client ∧
        k'.resolver.client? id = some client' ∧ client.source = client'.source ∧
        (k.caches.cache? client.serial).map (·.cache) =
          (k'.caches.cache? client'.serial).map (·.cache) := by
  have hbinding : k.bindingOf id = k'.bindingOf id := congrArg View.binding hview
  rw [bindingOf, bindingOf] at hbinding
  cases h : k.resolver.client? id with
  | none =>
    rw [h] at hbinding
    exact .inl ⟨rfl, Option.map_eq_none_iff.1 hbinding.symm⟩
  | some client =>
    rw [h] at hbinding
    obtain ⟨client', h', heq⟩ := Option.map_eq_some_iff.1 hbinding.symm
    obtain ⟨hsource, hcache⟩ := Prod.mk.inj heq
    exact .inr ⟨client, client', rfl, h', hsource.symm, hcache.symm⟩

/-- Clients of the same source, or the same reason why there is none. -/
inductive SameClient :
    Except Failure (Option (Client ω)) → Except Failure (Option (Client ω)) → Prop
  | raised (f : Failure) : SameClient (.error f) (.error f)
  | missing : SameClient (.ok none) (.ok none)
  | found {client client' : Client ω} (h : client.source = client'.source) :
    SameClient (.ok (some client)) (.ok (some client'))

theorem SameClient.of_map_eq {found found' : Except Failure (Option (Client ω))}
    (h : found.map (Option.map (·.source)) = found'.map (Option.map (·.source))) :
    SameClient found found' := by
  rcases found with f | _ | client <;> rcases found' with f' | _ | client'
  -- the results are of the same sort
  case error.error =>
    obtain rfl := Except.error.inj h
    exact .raised f
  case ok.none.ok.none => exact .missing
  case ok.some.ok.some => exact .found (Option.some.inj (Except.ok.inj h))
  all_goals cases h

/-- What a source finds as its client depends on nothing but its view, and the intakes are alike to
it afterwards as well. -/
theorem resolve_view (hs : s.Apart part) (hk : k.Sound s) (hk' : k'.Sound s)
    (hview : k.view s part id = k'.view s part id) :
    SameClient (k.resolve s id).1 (k'.resolve s id).1 ∧
      (k.resolve s id).2.view s part id = (k'.resolve s id).2.view s part id := by
  rcases client?_of_view_eq hview with ⟨h, h'⟩ | ⟨client, client', h, h', hsource, -⟩
  · obtain ⟨hfst, houtside, hevents, hclients⟩ := resolve_of_none (s := s) h
    obtain ⟨hfst', houtside', hevents', hclients'⟩ := resolve_of_none (s := s) h'
    have hown : part id k.outside = part id k'.outside := congrArg View.own hview
    have hbuild := hs.build_eq hown
    have hclient : SameClient (k.resolve s id).1 (k'.resolve s id).1 :=
      .of_map_eq (by rw [hfst, hfst', hbuild])
    refine ⟨hclient, ?_⟩
    have hbinding : (k.resolve s id).2.bindingOf id = (k'.resolve s id).2.bindingOf id := by
      rw [bindingOf, bindingOf, hclients, hclients', if_pos rfl, if_pos rfl, hbuild,
        resolve_caches, resolve_caches]
      -- a new client has no cache yet
      cases (s.build id k'.outside).1 with
      | error f => rfl
      | ok source =>
        simp only [Option.map_some, hk.unbound (Nat.le_refl _), hk'.unbound (Nat.le_refl _)]
    have hcalls : (k.resolve s id).2.events.filter (·.isCallTo id) =
        (k'.resolve s id).2.events.filter (·.isCallTo id) := by
      rw [hevents, hevents', List.filter_append, List.filter_append]
      congr 1
      exact congrArg View.calls hview
    rw [resolve_view_eq, resolve_view_eq, hview, houtside, houtside', hs.build_own_eq hown,
      hbinding, hcalls]
  · rw [resolve_of_some h, resolve_of_some h']
    exact ⟨.found hsource, hview⟩

/-- A client finds a cache, and the intakes are alike to its source afterwards as well. -/
theorem cacheOf_view (hs : s.Apart part) {client client' : Client ω}
    (h : k.resolver.client? id = some client)
    (h' : k'.resolver.client? id = some client')
    (hview : k.view s part id = k'.view s part id) :
    (∃ bound bound', (k.cacheOf s client).1 = .ok bound ∧
        (k'.cacheOf s client').1 = .ok bound') ∧
      (k.cacheOf s client).2.view s part id = (k'.cacheOf s client').2.view s part id := by
  have hbinding := congrArg View.binding hview
  change k.bindingOf id = k'.bindingOf id at hbinding
  rw [bindingOf, bindingOf, h, h'] at hbinding
  obtain ⟨hsource, hcache⟩ := Prod.mk.inj (Option.some.inj hbinding)
  cases hc : k.caches.cache? client.serial with
  | some bound =>
    rw [hc] at hcache
    obtain ⟨bound', hc', heq⟩ := Option.map_eq_some_iff.1 hcache.symm
    rw [cacheOf_of_some hc, cacheOf_of_some hc']
    exact ⟨⟨bound, bound', rfl, rfl⟩, hview⟩
  | none =>
    rw [hc] at hcache
    have hc' : k'.caches.cache? client'.serial = none := Option.map_eq_none_iff.1 hcache.symm
    obtain ⟨⟨bound, hb⟩, houtside, hevents, hcaches⟩ := cacheOf_of_none hc (hs.connect_ok _)
    obtain ⟨⟨bound', hb'⟩, houtside', hevents', hcaches'⟩ :=
      cacheOf_of_none hc' (hs.connect_ok _)
    refine ⟨⟨bound, bound', hb, hb'⟩, ?_⟩
    have hown : part id k.outside = part id k'.outside := congrArg View.own hview
    have hbinding : (k.cacheOf s client).2.bindingOf id =
        (k'.cacheOf s client').2.bindingOf id := by
      rw [bindingOf, bindingOf, cacheOf_resolver, cacheOf_resolver, h, h', Option.map_some,
        Option.map_some, hcaches, hcaches', if_pos rfl, if_pos rfl, hsource]
    have hcalls : (k.cacheOf s client).2.events.filter (·.isCallTo id) =
        (k'.cacheOf s client').2.events.filter (·.isCallTo id) := by
      rw [hevents, hevents', List.filter_append, List.filter_append]
      congr 1
      exact congrArg View.calls hview
    rw [cacheOf_view_eq, cacheOf_view_eq, hview, houtside, houtside', hs.connect_eq,
      hs.connect_eq, hown, hbinding, hcalls]

end Intake

end MetricIntake
