import MetricIntake.Proofs.Bindings

/-!
# Owners of caches

Whatever is processed and forgotten, each cache that is bound is that of the client that its source
has at present: `Intake.Owned`, which `Trail.owned` carries along.  So a source has one client and
one cache at most, and a reset takes away both of them and none of the others
(`Intake.Owned.bindings_of_drop`).
-/

namespace MetricIntake

variable {ω : Type}

/-! ### What is forgotten -/

namespace Named

variable {κ α : Type} [DecidableEq κ] {name : κ} {value : α} {entries : List (κ × α)}

theorem lookup_eq_none_iff : lookup name entries = none ↔ name ∉ entries.map Prod.fst := by
  induction entries with
  | nil => simp [lookup]
  | cons entry entries ih =>
    rw [lookup, List.map_cons, List.mem_cons, not_or]
    by_cases h : entry.1 = name
    · simp [h]
    · rw [if_neg h, ih]
      exact (and_iff_right (Ne.symm h)).symm

/-- What is there under a name that is there once is found. -/
theorem lookup_of_mem (once : (entries.map Prod.fst).Nodup) (h : (name, value) ∈ entries) :
    lookup name entries = some value := by
  induction entries with
  | nil => cases h
  | cons entry entries ih =>
    rw [List.map_cons, List.nodup_cons] at once
    rw [lookup]
    rcases List.mem_cons.1 h with rfl | hmem
    · exact if_pos rfl
    · have hne : entry.1 ≠ name := fun hname =>
        once.1 (List.mem_map.2 ⟨_, hmem, hname.symm⟩)
      rw [if_neg hne]
      exact ih once.2 hmem

end Named

namespace Resolver

variable {r : Resolver ω}

theorem mem_known_note {id other : String} :
    other ∈ (r.note id).known ↔ other ∈ r.known ∨ other = id := by
  unfold note
  split
  · rename_i h
    have hmem : id ∈ r.known := by simpa using h
    constructor
    · exact Or.inl
    · rintro (h | rfl)
      · exact h
      · exact hmem
  · simp

@[simp]
theorem note_clients (id : String) : (r.note id).clients = r.clients := by
  unfold note
  split <;> rfl

/-- The first of the ids is forgotten, then the others. -/
theorem drop_cons (id : String) (ids : List String) :
    (r.drop (id :: ids)).2 = (((r.note id).unbind id).drop ids).2 ∧
      (r.drop (id :: ids)).1 =
        (r.client? id).toList ++ (((r.note id).unbind id).drop ids).1 := by
  rw [drop]
  dsimp only
  cases r.client? id <;> exact ⟨rfl, rfl⟩

theorem drop_clients (ids : List String) :
    (r.drop ids).2.clients = r.clients.filter (·.1 ∉ ids) := by
  induction ids generalizing r with
  | nil => simp [drop]
  | cons id ids ih =>
    rw [(drop_cons id ids).1, ih, unbind, note_clients, List.filter_filter]
    refine List.filter_congr fun entry _ => ?_
    simp [Bool.and_comm]

theorem client?_drop (ids : List String) (id : String) :
    (r.drop ids).2.client? id = if id ∈ ids then none else r.client? id := by
  induction ids generalizing r with
  | nil => rfl
  | cons first ids ih =>
    rw [(drop_cons first ids).1, ih, client?_unbind, client?_note]
    by_cases h : id = first
    · simp [h]
    · simp [h]

/-- No id is unknown any more. -/
theorem known_drop (ids : List String) {id : String} (h : id ∈ r.known) :
    id ∈ (r.drop ids).2.known := by
  induction ids generalizing r with
  | nil => exact h
  | cons first ids ih =>
    rw [(drop_cons first ids).1]
    exact ih (mem_known_note.2 (.inl h))

/-- The clients that are forgotten are those of the ids. -/
theorem mem_dropped_iff {ids : List String} {client : Client ω} :
    client ∈ (r.drop ids).1 ↔ ∃ id ∈ ids, r.client? id = some client := by
  induction ids generalizing r with
  | nil => simp [drop]
  | cons first ids ih =>
    rw [(drop_cons first ids).2, List.mem_append, Option.mem_toList, ih]
    constructor
    · rintro (h | ⟨id, hid, h⟩)
      · exact ⟨first, List.mem_cons_self, h⟩
      · rw [client?_unbind, client?_note] at h
        split at h
        · cases h
        · exact ⟨id, List.mem_cons_of_mem _ hid, h⟩
    · rintro ⟨id, hid, h⟩
      by_cases hfirst : id = first
      · exact .inl (hfirst ▸ h)
      · refine .inr ⟨id, (List.mem_cons.1 hid).resolve_left hfirst, ?_⟩
        rw [client?_unbind, client?_note, if_neg hfirst, h]

end Resolver

namespace CacheRegistry

variable {r : CacheRegistry}

theorem discardAll_bindings (clients : List (Client ω)) :
    (clients.foldl (fun caches client => caches.discard client.serial) r).bindings =
      r.bindings.filter (·.client ∉ clients.map (·.serial)) := by
  induction clients generalizing r with
  | nil => simp
  | cons client clients ih =>
    rw [List.foldl_cons, ih, discard, List.filter_filter]
    refine List.filter_congr fun bound _ => ?_
    simp [Bool.and_comm]

theorem discardAll_next (clients : List (Client ω)) :
    (clients.foldl (fun caches client => caches.discard client.serial) r).next = r.next := by
  induction clients generalizing r with
  | nil => rfl
  | cons client clients ih => exact ih

theorem cache?_eq_none_iff {serial : Nat} :
    r.cache? serial = none ↔ serial ∉ r.bindings.map (·.client) := by
  rw [cache?, List.find?_eq_none, List.mem_map, not_exists]
  simp

/-- A cache that is the only one of its client is found. -/
theorem cache?_of_mem {bound : BoundCache} (once : (r.bindings.map (·.client)).Nodup)
    (h : bound ∈ r.bindings) : r.cache? bound.client = some bound := by
  cases hc : r.cache? bound.client with
  | none => exact absurd (List.mem_map_of_mem h) (cache?_eq_none_iff.1 hc)
  | some found =>
    have hclient : found.client = bound.client := by simpa using List.find?_some hc
    rw [List.inj_on_of_nodup_map once (List.mem_of_find?_eq_some hc) h hclient]

end CacheRegistry

namespace Intake

variable {s : Surroundings ω} {k : Intake ω}

/-- A source that has no client is given one, if it can be built, and is noted in any case. -/
theorem resolve_cases {id : String} (h : k.resolver.client? id = none) :
    (∃ source, (s.build id k.outside).1 = .ok source ∧
      (k.resolve s id).2.resolver = ((k.resolver.note id).bind id source).2) ∨
    ((∃ f, (s.build id k.outside).1 = .error f) ∧
      (k.resolve s id).2.resolver = k.resolver.note id) := by
  unfold resolve emit
  rw [h]
  dsimp only
  rcases s.build id k.outside with ⟨(e | f) | source, outside⟩
  · exact .inr ⟨⟨_, rfl⟩, rfl⟩
  · exact .inr ⟨⟨_, rfl⟩, rfl⟩
  · exact .inl ⟨source, rfl, rfl⟩

/-- A client that has no cache is given one, if the store can be reached. -/
theorem cacheOf_cases {client : Client ω} (h : k.caches.cache? client.serial = none) :
    ((s.connect k.outside).1 = .ok () ∧ (k.cacheOf s client).2.caches =
      (k.caches.bind client.serial (s.cache client.source.id)).2) ∨
    ((∃ f, (s.connect k.outside).1 = .error f) ∧
      (k.cacheOf s client).2.caches = k.caches) := by
  unfold cacheOf emit
  rw [h]
  dsimp only
  rcases s.connect k.outside with ⟨f | _, outside⟩
  · exact .inr ⟨⟨f, rfl⟩, rfl⟩
  · exact .inl ⟨rfl, rfl⟩

end Intake

/-! ### The invariant -/

/-- Each cache that is bound is that of the client that its source has. -/
structure Intake.Owned (s : Surroundings ω) (k : Intake ω) : Prop where
  sound : k.Sound s
  /-- An id that has a client can be found again in order to forget everything. -/
  known : ∀ ⦃id client⦄, k.resolver.client? id = some client → id ∈ k.resolver.known
  single : (k.resolver.clients.map Prod.fst).Nodup
  owner : ∀ bound ∈ k.caches.bindings, ∃ client,
    k.resolver.client? bound.cache.source = some client ∧ client.serial = bound.client
  caches : (k.caches.bindings.map (·.client)).Nodup

namespace Intake.Owned

variable {s : Surroundings ω} {k k' : Intake ω}

theorem of_empty (hresolver : k.resolver = .empty) (hcaches : k.caches = .empty) : k.Owned s where
  sound := (Sound.fresh s k.outside k.store k.clock "").congr hresolver hcaches
  known := by
    rw [hresolver]
    rintro id client ⟨⟩
  single := by
    rw [hresolver]
    exact List.nodup_nil
  owner := by
    rw [hcaches]
    rintro bound ⟨⟩
  caches := by
    rw [hcaches]
    exact List.nodup_nil

/-- The invariant is about the resolver and the caches only. -/
theorem congr (h : k.Owned s) (hresolver : k'.resolver = k.resolver)
    (hcaches : k'.caches = k.caches) : k'.Owned s where
  sound := h.sound.congr hresolver hcaches
  known := hresolver ▸ h.known
  single := hresolver ▸ h.single
  owner := hresolver ▸ hcaches ▸ h.owner
  caches := hcaches ▸ h.caches

theorem resolve (hs : s.Carries) (h : k.Owned s) (id : String) : (k.resolve s id).2.Owned s := by
  have hsound := h.sound.resolve hs id
  cases hnone : k.resolver.client? id with
  | some client =>
    rw [resolve_of_some hnone]
    exact h
  | none =>
    obtain ⟨source, -, hresolver⟩ | ⟨-, hresolver⟩ := resolve_cases (s := s) hnone
    · refine ⟨hsound, ?_, ?_, ?_, ?_⟩
      · intro id' client hclient
        rw [hresolver] at hclient ⊢
        rw [Resolver.client?_bind, Resolver.client?_note] at hclient
        refine Resolver.mem_known_note.2 ?_
        split at hclient
        · rename_i hid
          exact .inr hid
        · exact .inl (h.known hclient)
      · -- the new client is the only one of its id
        have hnot : id ∉ k.resolver.clients.map Prod.fst := Named.lookup_eq_none_iff.1 hnone
        rw [hresolver, Resolver.bind]
        dsimp only
        rw [Resolver.note_clients, Named.put_of_not_mem _ hnot, List.map_append]
        refine List.nodup_append.2 ⟨h.single, List.nodup_singleton _, ?_⟩
        rintro other hother _ hnew rfl
        obtain rfl : other = id := List.mem_singleton.1 hnew
        exact hnot hother
      · intro bound hbound
        rw [resolve_caches] at hbound
        obtain ⟨client, hclient, hserial⟩ := h.owner bound hbound
        refine ⟨client, ?_, hserial⟩
        have hne : bound.cache.source ≠ id := by
          intro hid
          rw [hid, hnone] at hclient
          cases hclient
        rw [hresolver, Resolver.client?_bind, if_neg hne, Resolver.client?_note, hclient]
      · rw [resolve_caches]
        exact h.caches
    · refine ⟨hsound, ?_, ?_, ?_, ?_⟩
      · intro id' client hclient
        rw [hresolver] at hclient ⊢
        rw [Resolver.client?_note] at hclient
        exact Resolver.mem_known_note.2 (.inl (h.known hclient))
      · rw [hresolver, Resolver.note_clients]
        exact h.single
      · rw [hresolver, resolve_caches]
        simpa using h.owner
      · rw [resolve_caches]
        exact h.caches

theorem cacheOf (h : k.Owned s) {id : String} {client : Client ω}
    (hclient : k.resolver.client? id = some client) : (k.cacheOf s client).2.Owned s := by
  cases hnone : k.caches.cache? client.serial with
  | some bound =>
    rw [cacheOf_of_some hnone]
    exact h
  | none =>
    obtain ⟨-, hcaches⟩ | ⟨-, hcaches⟩ := cacheOf_cases (s := s) hnone
    · have hid : client.source.id = id := h.sound.carries hclient
      refine ⟨sound_iff.2 ⟨h.sound.coherent.cacheOf hclient,
        h.sound.binds.congr (k.cacheOf_resolver s client)⟩, ?_, ?_, ?_, ?_⟩
      · rw [cacheOf_resolver]
        exact h.known
      · rw [cacheOf_resolver]
        exact h.single
      · rw [cacheOf_resolver, hcaches]
        intro bound hbound
        rcases List.mem_append.1 hbound with hold | hnew
        · exact h.owner bound hold
        · obtain rfl := List.mem_singleton.1 hnew
          exact ⟨client, by rw [hid]; exact hclient, rfl⟩
      · rw [hcaches, CacheRegistry.bind]
        dsimp only
        rw [List.map_append]
        refine List.nodup_append.2 ⟨h.caches, List.nodup_singleton _, ?_⟩
        rintro serial hold _ hnew rfl
        obtain rfl : serial = client.serial := List.mem_singleton.1 hnew
        exact CacheRegistry.cache?_eq_none_iff.1 hnone hold
    · exact h.congr (k.cacheOf_resolver s client) hcaches

/-- What becomes of caches when the clients of some ids are forgotten: those of these ids go, and
all others stay. -/
theorem bindings_of_drop (h : k.Owned s) (ids : List String) :
    ((k.resolver.drop ids).1.foldl
        (fun caches client => caches.discard client.serial) k.caches).bindings =
      k.caches.bindings.filter (·.cache.source ∉ ids) := by
  rw [CacheRegistry.discardAll_bindings]
  refine List.filter_congr fun bound hbound => ?_
  obtain ⟨client, hclient, hserial⟩ := h.owner bound hbound
  rw [decide_eq_decide, not_iff_not, List.mem_map]
  constructor
  · rintro ⟨dropped, hdropped, hsame⟩
    obtain ⟨id, hid, hof⟩ := Resolver.mem_dropped_iff.1 hdropped
    -- the number of the client tells of which id it is
    rw [h.sound.apart hclient hof (hserial.trans hsame.symm)]
    exact hid
  · exact fun hid => ⟨client, Resolver.mem_dropped_iff.2 ⟨_, hid, hclient⟩, hserial⟩

theorem reset (h : k.Owned s) (id? : Option String) : (k.reset id?).Owned s := by
  have hsound := h.sound.reset id?
  obtain ⟨ids, hids⟩ := k.resolver.reset_eq_drop id?
  unfold Intake.reset at hsound ⊢
  rw [hids] at hsound ⊢
  have hbindings := h.bindings_of_drop ids
  refine ⟨hsound, ?_, ?_, ?_, ?_⟩
  · intro id client hclient
    exact Resolver.known_drop ids (h.known (Resolver.client?_of_drop hclient))
  · dsimp only
    rw [Resolver.drop_clients]
    exact h.single.sublist (List.filter_sublist.map _)
  · intro bound hbound
    dsimp only at hbound ⊢
    rw [hbindings] at hbound
    obtain ⟨hold, hkept⟩ := List.mem_filter.1 hbound
    obtain ⟨client, hclient, hserial⟩ := h.owner bound hold
    refine ⟨client, ?_, hserial⟩
    rw [Resolver.client?_drop, if_neg (of_decide_eq_true hkept), hclient]
  · dsimp only
    rw [hbindings]
    exact h.caches.sublist (List.filter_sublist.map _)

theorem step (hs : s.Carries) (h : k.Owned s) (hstep : Step s k k') : k'.Owned s := by
  cases hstep with
  | say records => exact h.congr rfl rfl
  | resolve id => exact h.resolve hs id
  | connect hclient => exact h.cacheOf hclient
  | miss => exact h.congr rfl rfl
  | reset id? => exact h.reset id?
  | trigger => exact h.congr rfl rfl
  | elapse i => exact h.congr rfl rfl

end Intake.Owned

/-- **Whatever happens, caches are those of the clients that are bound.** -/
theorem Trail.owned {s : Surroundings ω} (hs : s.Carries) {k m : Intake ω} {vs : List (Visit ω)}
    (h : Trail s k vs m) (hk : k.Owned s) : m.Owned s := by
  induction h with
  | nil k => exact hk
  | step hstep _ ih => exact ih (hk.step hs hstep)
  | @visit v m vs _ _ ih => exact ih (hk.congr v.after_resolver v.after_caches)

end MetricIntake
