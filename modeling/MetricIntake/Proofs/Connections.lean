import MetricIntake.Proofs.Chain
import MetricIntake.Proofs.Ownership
import MetricIntake.Proofs.Replies
import MetricIntake.Proofs.Scripted

/-!
# One client and one cache for each source

`points` are the intakes that a run goes through, also between the requests of a batch and after
failures, and at each of them a source has one client and one cache at most: `Intake.OneEach`.
`Intake.History` follows the clients that are built and connected in a run.  No client is connected
to the store twice, since one that was connected keeps its cache for as long as it is bound, and
does not come back.  `one_each` puts the two together.
-/

namespace MetricIntake

variable {ω : Type}

/-! ### The points of a run -/

/-- The intakes that a turn goes through: as its source is looked for, as its client is connected,
and after each of its requests. -/
def Turn.points (s : Surroundings ω) (t : Turn ω) : List (Intake ω) :=
  t.before :: (t.before.resolve s t.id).2 ::
    (match t.client? s with
      | .ok (some client) => [((t.before.resolve s t.id).2.cacheOf s client).2]
      | _ => []) ++
    (t.visits s).map (·.after) ++ [t.after s]

/-- The intakes that a call goes through. -/
def Call.points (s : Surroundings ω) (c : Call ω) : List (Intake ω) :=
  (c.turns s).flatMap (·.points s) ++ [(c.before.process s c.batch).2]

/-- The intakes that a run goes through. -/
def points (s : Surroundings ω) : List (Command ω) → Intake ω → List (Intake ω)
  | [], k => [k]
  | command :: rest, k =>
    let more := points s rest (k.perform s command)
    match command with
    | .process batch => k :: Call.points s ⟨batch, k⟩ ++ more
    | _ => k :: more

section Points

variable {s : Surroundings ω}

/-- A point of a turn has some of its visits behind it, which are its first ones. -/
theorem Turn.past_of_mem_points {t : Turn ω} (hid : ∀ r ∈ t.requests, r.source = t.id)
    {m : Intake ω} (h : m ∈ t.points s) :
    ∃ past, past <+: t.visits s ∧ Trail s t.before past m := by
  have hresolve : Trail s t.before [] (t.before.resolve s t.id).2 := .single (.resolve _ _)
  rw [points, List.mem_append, List.mem_append, List.mem_cons, List.mem_cons,
    List.mem_singleton] at h
  rcases h with ((rfl | rfl | h) | h) | rfl
  · exact ⟨[], List.nil_prefix, .nil _⟩
  · exact ⟨[], List.nil_prefix, hresolve⟩
  · split at h
    · rename_i client hc
      obtain rfl := List.mem_singleton.1 h
      exact ⟨[], List.nil_prefix,
        hresolve.append (.single (.connect (Intake.client?_of_resolve hc)))⟩
    · cases h
  · obtain ⟨v, hv, rfl⟩ := List.mem_map.1 h
    obtain ⟨past, rest, hvisits⟩ := List.append_of_mem hv
    obtain ⟨hpast, hattached, -⟩ := (hvisits ▸ trail_turn (s := s) t hid).split
    refine ⟨past ++ [v], ⟨rest, ?_⟩, hpast.append (.visit hattached (.nil _))⟩
    rw [hvisits, List.append_assoc]
    rfl
  · exact ⟨_, List.prefix_rfl, trail_turn t hid⟩

/-- A turn has the visits of the turns before it behind it, and its own come next. -/
theorem past_of_mem_turnsOf {batch : List Request} {ids : List String} {k : Intake ω} {t : Turn ω}
    (h : t ∈ turnsOf s batch ids k) :
    ∃ past, past ++ t.visits s <+: (turnsOf s batch ids k).flatMap (·.visits s) ∧
      Trail s k past t.before := by
  induction ids generalizing k with
  | nil => cases h
  | cons id ids ih =>
    rw [turnsOf, List.flatMap_cons]
    rcases List.mem_cons.1 h with rfl | h
    · exact ⟨[], List.prefix_append _ _, .nil _⟩
    · obtain ⟨past, hbehind, hpast⟩ := ih h
      refine ⟨_, ?_, (trail_turn { id, requests := requestsOf id batch, before := k }
        fun r hr => (mem_requestsOf.1 hr).2).append hpast⟩
      rw [List.append_assoc]
      exact (List.prefix_append_right_inj _).2 hbehind

theorem Call.past_of_mem_points {c : Call ω} {m : Intake ω} (h : m ∈ c.points s) :
    ∃ past, past <+: c.visits s ∧ Trail s c.before past m := by
  rcases List.mem_append.1 h with h | h
  · obtain ⟨t, ht, hm⟩ := List.mem_flatMap.1 h
    obtain ⟨before, hbefore, htrail⟩ := past_of_mem_turnsOf ht
    have hid : ∀ r ∈ t.requests, r.source = t.id := by
      rw [requests_of_mem_turnsOf ht]
      exact fun r hr => (mem_requestsOf.1 hr).2
    obtain ⟨past, hpast, htrail'⟩ := Turn.past_of_mem_points hid hm
    exact ⟨before ++ past, ((List.prefix_append_right_inj before).2 hpast).trans hbefore,
      htrail.append htrail'⟩
  · obtain rfl := List.mem_singleton.1 h
    exact ⟨_, List.prefix_rfl, trail_call c⟩

theorem visits_cons (command : Command ω) (rest : List (Command ω)) (k : Intake ω) :
    visits s (command :: rest) k =
      visits s [command] k ++ visits s rest (k.perform s command) := by
  cases command with
  | process batch =>
    rw [visits, calls, List.flatMap_cons, visits, calls, List.flatMap_cons, calls,
      List.flatMap_nil, List.append_nil]
    rfl
  | _ => rfl

/-- **Every point of a run has some of its visits behind it**, which are its first ones. -/
theorem past_of_mem_points {commands : List (Command ω)} {k m : Intake ω}
    (h : m ∈ points s commands k) :
    ∃ past, past <+: visits s commands k ∧ Trail s k past m := by
  induction commands generalizing k with
  | nil =>
    obtain rfl := List.mem_singleton.1 h
    exact ⟨[], List.nil_prefix, .nil _⟩
  | cons command rest ih =>
    have hmore (hm : m ∈ points s rest (k.perform s command)) :
        ∃ past, past <+: visits s (command :: rest) k ∧ Trail s k past m := by
      obtain ⟨past, hbehind, hpast⟩ := ih hm
      refine ⟨visits s [command] k ++ past, ?_, (trail_run [command] k).append hpast⟩
      rw [visits_cons command rest]
      exact (List.prefix_append_right_inj _).2 hbehind
    cases command with
    | process batch =>
      rcases List.mem_append.1 h with h | h
      · rcases List.mem_cons.1 h with rfl | h
        · exact ⟨[], List.nil_prefix, .nil _⟩
        · obtain ⟨past, hbehind, hpast⟩ := Call.past_of_mem_points h
          exact ⟨past, hbehind.trans (List.prefix_append _ _), hpast⟩
      · exact hmore h
    | reset id? =>
      rcases List.mem_cons.1 h with rfl | h
      · exact ⟨[], List.nil_prefix, .nil _⟩
      · exact hmore h
    | trigger =>
      rcases List.mem_cons.1 h with rfl | h
      · exact ⟨[], List.nil_prefix, .nil _⟩
      · exact hmore h
    | elapse i =>
      rcases List.mem_cons.1 h with rfl | h
      · exact ⟨[], List.nil_prefix, .nil _⟩
      · exact hmore h

/-- Every point of a run is at the end of a trail. -/
theorem trail_of_mem_points {commands : List (Command ω)} {k m : Intake ω}
    (h : m ∈ points s commands k) : ∃ vs, Trail s k vs m := by
  obtain ⟨past, -, hpast⟩ := past_of_mem_points h
  exact ⟨past, hpast⟩

end Points

/-! ### Clients that were built and connected -/

section History

variable {s : Surroundings ω}

/-- The client that is built as a source is looked for, if one is. -/
def Intake.builds? (s : Surroundings ω) (k : Intake ω) (id : String) : Option (Client ω) :=
  match k.resolver.client? id, (s.build id k.outside).1 with
  | none, .ok source => some { serial := k.resolver.next, source }
  | _, _ => none

/-- The number of the client if it is connected to the store as its cache is looked for. -/
def Intake.connects? (s : Surroundings ω) (k : Intake ω) (client : Client ω) : Option Nat :=
  match k.caches.cache? client.serial, (s.connect k.outside).1 with
  | none, .ok () => some client.serial
  | _, _ => none

/-- The client that is built in a turn, if one is. -/
def Turn.built? (s : Surroundings ω) (t : Turn ω) : Option (Client ω) :=
  t.before.builds? s t.id

/-- The number of the client that is connected to the store in a turn, if one is. -/
def Turn.connected? (s : Surroundings ω) (t : Turn ω) : Option Nat :=
  match t.client? s with
  | .ok (some client) => (t.before.resolve s t.id).2.connects? s client
  | _ => none

/-- All turns of a run. -/
def turnsIn (s : Surroundings ω) (commands : List (Command ω)) (k : Intake ω) : List (Turn ω) :=
  (calls s commands k).flatMap (·.turns s)

/-- The clients that are built in a run, in their order. -/
def built (s : Surroundings ω) (commands : List (Command ω)) (k : Intake ω) : List (Client ω) :=
  (turnsIn s commands k).filterMap (·.built? s)

/-- The numbers of the clients that are connected to the store in a run, in their order, with as
many occurrences as there are connections. -/
def connections (s : Surroundings ω) (commands : List (Command ω)) (k : Intake ω) : List Nat :=
  (turnsIn s commands k).filterMap (·.connected? s)

/-- The clients built and the connections made so far. -/
structure Intake.History (k : Intake ω) (built : List (Client ω)) (connections : List Nat) :
    Prop where
  numbers : built.map (·.serial) = List.range k.resolver.next
  once : connections.Nodup
  old : ∀ serial ∈ connections, serial < k.resolver.next
  /-- A client that was connected has its cache as long as it is bound. -/
  served : ∀ ⦃id client⦄, k.resolver.client? id = some client → client.serial ∈ connections →
    k.caches.cache? client.serial ≠ none
  count : k.caches.next = connections.length

namespace Intake.History

variable {k k' : Intake ω} {built : List (Client ω)} {connections : List Nat}

theorem of_empty (hresolver : k.resolver = .empty) (hcaches : k.caches = .empty) :
    k.History [] [] where
  numbers := by
    rw [hresolver]
    rfl
  once := List.nodup_nil
  old := fun serial h => absurd h List.not_mem_nil
  served := fun id client _ h => absurd h List.not_mem_nil
  count := by
    rw [hcaches]
    rfl

theorem congr (h : k.History built connections) (hresolver : k'.resolver = k.resolver)
    (hcaches : k'.caches = k.caches) : k'.History built connections where
  numbers := hresolver ▸ h.numbers
  once := h.once
  old := hresolver ▸ h.old
  served := hresolver ▸ hcaches ▸ h.served
  count := hcaches ▸ h.count

theorem resolve (h : k.History built connections) (id : String) :
    (k.resolve s id).2.History (built ++ (k.builds? s id).toList) connections := by
  unfold builds?
  cases hnone : k.resolver.client? id with
  | some client =>
    rw [resolve_of_some hnone]
    simpa using h
  | none =>
    obtain ⟨source, hbuild, hresolver⟩ | ⟨⟨f, hbuild⟩, hresolver⟩ := resolve_cases (s := s) hnone
    · rw [hbuild]
      dsimp only [Option.toList]
      have hnext : (k.resolve s id).2.resolver.next = k.resolver.next + 1 := by
        rw [hresolver]
        exact congrArg (· + 1) (Resolver.note_next ..)
      refine ⟨?_, h.once, ?_, ?_, ?_⟩
      · rw [hnext, List.map_append, h.numbers, List.range_succ]
        rfl
      · rw [hnext]
        exact fun serial hserial => Nat.lt_succ_of_lt (h.old serial hserial)
      · intro id' client hclient hserial
        rw [resolve_caches]
        rw [hresolver, Resolver.client?_bind, Resolver.client?_note] at hclient
        split at hclient
        · -- no client was connected before it was built
          obtain rfl := Option.some.inj hclient
          rw [Resolver.note_next] at hserial
          exact absurd (h.old _ hserial) (Nat.lt_irrefl _)
        · exact h.served hclient hserial
      · rw [resolve_caches]
        exact h.count
    · rw [hbuild]
      dsimp only [Option.toList]
      rw [List.append_nil]
      refine ⟨?_, h.once, ?_, ?_, ?_⟩
      · rw [hresolver, Resolver.note_next]
        exact h.numbers
      · rw [hresolver, Resolver.note_next]
        exact h.old
      · intro id' client hclient hserial
        rw [hresolver, Resolver.client?_note] at hclient
        rw [resolve_caches]
        exact h.served hclient hserial
      · rw [resolve_caches]
        exact h.count

/-- A client that was connected is not connected again: it has its cache. -/
theorem cacheOf (h : k.History built connections) (hk : k.Coherent s) {id : String}
    {client : Client ω} (hclient : k.resolver.client? id = some client) :
    (k.cacheOf s client).2.History built (connections ++ (k.connects? s client).toList) := by
  unfold connects?
  cases hnone : k.caches.cache? client.serial with
  | some bound =>
    rw [cacheOf_of_some hnone]
    simpa using h
  | none =>
    have hresolver := k.cacheOf_resolver s client
    obtain ⟨hconnect, hcaches⟩ | ⟨⟨f, hconnect⟩, hcaches⟩ := cacheOf_cases (s := s) hnone
    · rw [hconnect]
      dsimp only [Option.toList]
      refine ⟨hresolver ▸ h.numbers, ?_, ?_, ?_, ?_⟩
      · refine List.nodup_append.2 ⟨h.once, List.nodup_singleton _, ?_⟩
        rintro serial hold _ hnew rfl
        obtain rfl := List.mem_singleton.1 hnew
        exact h.served hclient hold hnone
      · rw [hresolver, List.forall_mem_append, List.forall_mem_singleton]
        exact ⟨h.old, hk.numbered hclient⟩
      · intro id' other hother hserial
        rw [hresolver] at hother
        rw [hcaches, CacheRegistry.cache?_bind hnone]
        split
        · exact Option.some_ne_none _
        · rename_i hne
          refine h.served hother ((List.mem_append.1 hserial).resolve_right fun hnew => ?_)
          exact hne (List.mem_singleton.1 hnew)
      · rw [hcaches, List.length_append, ← h.count]
        rfl
    · rw [hconnect]
      dsimp only [Option.toList]
      rw [List.append_nil]
      exact h.congr hresolver hcaches

/-- To forget clients with their caches does not undo what was done, and leaves all other clients
with theirs. -/
theorem reset (h : k.History built connections) (hk : k.Owned s) (id? : Option String) :
    (k.reset id?).History built connections := by
  obtain ⟨ids, hids⟩ := k.resolver.reset_eq_drop id?
  have hbindings := hk.bindings_of_drop ids
  unfold Intake.reset
  rw [hids]
  refine ⟨?_, h.once, ?_, ?_, ?_⟩
  · dsimp only
    rw [Resolver.next_drop]
    exact h.numbers
  · dsimp only
    rw [Resolver.next_drop]
    exact h.old
  · intro id client hclient hserial
    dsimp only at hclient ⊢
    rw [Resolver.client?_drop] at hclient
    split at hclient
    · cases hclient
    · rename_i hkept
      have hbefore := h.served hclient hserial
      rw [Ne, CacheRegistry.cache?_eq_none_iff, not_not, List.mem_map] at hbefore ⊢
      obtain ⟨bound, hbound, hof⟩ := hbefore
      -- its cache is the one of a client of `id`
      obtain ⟨owner, howner, hsame⟩ := hk.owner bound hbound
      obtain rfl := hk.sound.apart howner hclient (hsame.trans hof)
      rw [hbindings]
      exact ⟨bound, List.mem_filter.2 ⟨hbound, decide_eq_true hkept⟩, hof⟩
  · dsimp only
    rw [CacheRegistry.discardAll_next]
    exact h.count

/-- A turn builds and connects one client at most. -/
theorem turn (hs : s.Carries) {t : Turn ω} (h : t.before.History built connections)
    (ht : t.before.Owned s) :
    (t.after s).History (built ++ (t.built? s).toList)
      (connections ++ (t.connected? s).toList) := by
  have hresolve := h.resolve (s := s) t.id
  unfold Turn.connected?
  cases hc : t.client? s with
  | error f =>
    obtain ⟨-, -, hafter⟩ := Turn.eq_of_error hc
    rw [hafter]
    exact (List.append_nil connections).symm ▸ hresolve
  | ok client? =>
    cases client? with
    | none =>
      obtain ⟨-, -, records, hafter⟩ := Turn.eq_of_none hc
      rw [hafter]
      exact (List.append_nil connections).symm ▸ hresolve.congr rfl rfl
    | some client =>
      have hconnect := hresolve.cacheOf (ht.resolve hs t.id).sound.coherent
        (Intake.client?_of_resolve hc)
      obtain ⟨f, -, -, -, hafter⟩ | ⟨bound, -, -, hafter, -⟩ := Turn.eq_of_some hc
      · rw [hafter]
        exact hconnect
      · rw [hafter]
        refine hconnect.congr (processRequests_resolver ..) ?_
        exact ((chained_visitsOf (f := Intake.caches) client bound.cache t.requests _).eq_of_forall
          fun v _ => v.after_caches).2

theorem processSources (hs : s.Carries) (batch : List Request) (ids : List String)
    (h : k.History built connections) (hk : k.Owned s) :
    (k.processSources s batch ids).2.History
      (built ++ (turnsOf s batch ids k).filterMap (·.built? s))
      (connections ++ (turnsOf s batch ids k).filterMap (·.connected? s)) := by
  induction ids generalizing k built connections with
  | nil =>
    show k.History (built ++ []) (connections ++ [])
    rw [List.append_nil, List.append_nil]
    exact h
  | cons id ids ih =>
    let t : Turn ω := { id, requests := requestsOf id batch, before := k }
    have hafter : (t.after s).Owned s :=
      (trail_turn (s := s) t fun r hr => (mem_requestsOf.1 hr).2).owned hs hk
    have hmore := ih (h.turn (t := t) hs hk) hafter
    rw [List.append_assoc, List.append_assoc] at hmore
    rw [processSources_cons, turnsOf, List.filterMap_eq_flatMap_toList,
      List.filterMap_eq_flatMap_toList, List.flatMap_cons, List.flatMap_cons,
      ← List.filterMap_eq_flatMap_toList, ← List.filterMap_eq_flatMap_toList]
    exact hmore

/-- **What was built and connected in a run** goes on the history. -/
theorem run (hs : s.Carries) (commands : List (Command ω)) (h : k.History built connections)
    (hk : k.Owned s) :
    (k.run s commands).History (built ++ MetricIntake.built s commands k)
      (connections ++ MetricIntake.connections s commands k) := by
  induction commands generalizing k built connections with
  | nil => exact (List.append_nil built).symm ▸ (List.append_nil connections).symm ▸ h
  | cons command rest ih =>
    have hafter : (k.perform s command).Owned s := (trail_run [command] k).owned hs hk
    cases command with
    | process batch =>
      obtain ⟨records, hprocess⟩ := process_snd (s := s) batch k
      have hcall : (k.process s batch).2.History
          (built ++ (Call.turns s ⟨batch, k⟩).filterMap (·.built? s))
          (connections ++ (Call.turns s ⟨batch, k⟩).filterMap (·.connected? s)) := by
        rw [hprocess]
        exact (h.processSources hs batch (batchSources batch) hk).congr rfl rfl
      have hmore := ih hcall hafter
      rw [List.append_assoc, List.append_assoc] at hmore
      rw [MetricIntake.built, MetricIntake.connections, turnsIn, calls, List.flatMap_cons,
        List.filterMap_append, List.filterMap_append]
      exact hmore
    | reset id? => exact ih (h.reset hk id?) hafter
    | trigger => exact ih (h.congr rfl rfl) hafter
    | elapse i => exact ih (h.congr rfl rfl) hafter

end Intake.History

end History

/-! ### One client, one cache -/

/-- Each source has one client and one cache at most, and a reset leaves just those of the other
sources as they are. -/
structure Intake.OneEach (s : Surroundings ω) (k : Intake ω) : Prop where
  clients : (k.resolver.clients.map Prod.fst).Nodup
  carries : ∀ entry ∈ k.resolver.clients, entry.2.source.id = entry.1
  /-- Each cache is bound to the client that its source has at present. -/
  owner : ∀ bound ∈ k.caches.bindings, ∃ client,
    k.resolver.client? client.source.id = some client ∧ client.serial = bound.client ∧
      bound.cache = s.cache client.source.id
  caches : (k.caches.bindings.map (·.cache.source)).Nodup
  /-- Nor has a client two caches. -/
  single : (k.caches.bindings.map (·.client)).Nodup
  forget : ∀ id, (k.reset (some id)).resolver.clients =
      k.resolver.clients.filter (·.1 ≠ id) ∧
    (k.reset (some id)).caches.bindings = k.caches.bindings.filter (·.cache.source ≠ id)
  forgetAll : (k.reset none).resolver.clients = [] ∧ (k.reset none).caches.bindings = []

theorem Intake.Owned.client?_of_mem {s : Surroundings ω} {k : Intake ω} (h : k.Owned s)
    {entry : String × Client ω} (hentry : entry ∈ k.resolver.clients) :
    k.resolver.client? entry.1 = some entry.2 :=
  Named.lookup_of_mem h.single hentry

theorem Intake.Owned.oneEach {s : Surroundings ω} {k : Intake ω} (h : k.Owned s) :
    k.OneEach s where
  clients := h.single
  carries entry hentry :=
    h.sound.carries (h.client?_of_mem hentry)
  owner bound hbound := by
    obtain ⟨client, hclient, hserial⟩ := h.owner bound hbound
    have hid : client.source.id = bound.cache.source := h.sound.carries hclient
    have hcache : k.caches.cache? client.serial = some bound :=
      hserial ▸ CacheRegistry.cache?_of_mem h.caches hbound
    exact ⟨client, hid ▸ hclient, hserial, hid ▸ h.sound.cached hclient hcache⟩
  caches := by
    -- caches of one source are caches of one client
    refine List.Nodup.map_on (fun bound hbound bound' hbound' hsource => ?_) h.caches.of_map
    obtain ⟨client, hclient, hserial⟩ := h.owner bound hbound
    obtain ⟨client', hclient', hserial'⟩ := h.owner bound' hbound'
    rw [hsource, hclient'] at hclient
    obtain rfl := Option.some.inj hclient
    exact List.inj_on_of_nodup_map h.caches hbound hbound' (hserial.symm.trans hserial')
  single := h.caches
  forget id := by
    unfold Intake.reset Resolver.reset
    dsimp only
    rw [h.bindings_of_drop, Resolver.drop_clients]
    simp
  forgetAll := by
    unfold Intake.reset Resolver.reset
    dsimp only
    rw [h.bindings_of_drop, Resolver.drop_clients, List.filter_eq_nil_iff, List.filter_eq_nil_iff]
    constructor
    · intro entry hentry
      simpa using h.known (h.client?_of_mem hentry)
    · intro bound hbound
      obtain ⟨client, hclient, -⟩ := h.owner bound hbound
      simpa using h.known hclient

/-- **One client and one cache for each source**: at every point of every run that begins without
clients and caches, and no client is connected to the store twice in it. -/
theorem one_each {s : Surroundings ω} (hs : s.Carries) {k : Intake ω}
    (hresolver : k.resolver = .empty) (hcaches : k.caches = .empty)
    (commands : List (Command ω)) :
    (∀ m ∈ points s commands k, m.OneEach s) ∧
      (built s commands k).map (·.serial) = List.range (built s commands k).length ∧
      (connections s commands k).Nodup ∧
      (∀ serial ∈ connections s commands k, ∃ client ∈ built s commands k,
        client.serial = serial) ∧
      (k.run s commands).caches.next = (connections s commands k).length := by
  have hk : k.Owned s := .of_empty hresolver hcaches
  have h : (k.run s commands).History (built s commands k) (connections s commands k) :=
    (Intake.History.of_empty hresolver hcaches).run hs commands hk
  have hlength := congrArg List.length h.numbers
  rw [List.length_map, List.length_range] at hlength
  refine ⟨?_, ?_, h.once, ?_, h.count⟩
  · intro m hm
    obtain ⟨vs, hvs⟩ := trail_of_mem_points hm
    exact (hvs.owned hs hk).oneEach
  · rw [hlength, h.numbers]
  · intro serial hserial
    have hmem : serial ∈ (built s commands k).map (·.serial) := by
      rw [h.numbers]
      exact List.mem_range.2 (h.old serial hserial)
    obtain ⟨client, hclient, hsame⟩ := List.mem_map.1 hmem
    exact ⟨client, hclient, hsame⟩

/-- A store that is reached only at the third attempt, and a source that is built only at its third
one. -/
def hesitant : Surroundings (String → Nat) :=
  { build := fun id tries =>
      let later := Function.update tries id (tries id + 1)
      if id = "late" ∧ tries id = 0 then
        (.error (.source { kind := .config, source := id, message := "not yet" }), later)
      else if id = "late" ∧ tries id = 1 then
        (.error (.fault (.foreign "RuntimeError" "not yet")), later)
      else (.ok (.scripted id (.constant
        { name := "m", value := "1", updatedAt := "2026-01-20T10:15:00Z" })), later)
    connect := fun tries =>
      let later := Function.update tries "store" (tries "store" + 1)
      if tries "store" = 0 then (.error (.fault (.foreign "RuntimeError" "not yet")), later)
      else if tries "store" = 1 then
        (.error (.source { kind := .other, source := "", message := "not yet" }), later)
      else (.ok (), later)
    storeUrl := "store"
    keyspace := Cache.defaultKeyspace
    depth := default }

/-- Batches of which the first ones fail, one source that is forgotten, and then all. -/
def attempts : List (Command (String → Nat)) :=
  let a : Request := ⟨"a", "m", none, 0⟩
  let late : Request := ⟨"late", "m", none, 0⟩
  [.process [a], .process [a, late], .process [a, late], .process [late], .reset (some "a"),
    .process [a, late], .reset none, .process [late]]

theorem hesitant_carries : hesitant.Carries := by
  intro id tries source h
  unfold hesitant at h
  dsimp only at h
  split at h
  · cases h
  · split at h
    · cases h
    · cases h
      rfl

theorem one_each_of_attempts :
    (∀ m ∈ points hesitant attempts .unused, m.OneEach hesitant) ∧
      (built hesitant attempts .unused).map (·.source.id) = ["a", "late", "a", "late"] ∧
      connections hesitant attempts .unused = [0, 1, 2, 3] ∧
      (Intake.unused.run hesitant attempts).caches.bindings.map (·.cache.source) = ["late"] ∧
      (Intake.unused.run hesitant attempts).caches.next = 4 := by
  obtain ⟨hpoints, -, -, -, hcount⟩ := one_each hesitant_carries (k := .unused) rfl rfl attempts
  have hconnections : connections hesitant attempts .unused = [0, 1, 2, 3] := by
    decide +kernel
  refine ⟨hpoints, ?_, hconnections, ?_, ?_⟩
  · decide +kernel
  · decide +kernel
  · rw [hcount, hconnections]
    rfl

end MetricIntake
