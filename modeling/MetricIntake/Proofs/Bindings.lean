import MetricIntake.Proofs.Run

/-!
# Bindings

Which client and which cache a source is bound to.  `Intake.Coherent` is the invariant that needs no
assumption: no two clients have the same number, and the cache of a client is the one for the id
that the client carries.  It holds of a fresh intake and stays whatever happens (`Trail.coherent`).
What is true of every source that is built stays true of every source that is bound
(`Trail.bindsOnly`).
If this is that sources carry the ids that they are built for, the two together are `Intake.Sound`,
and a request finds the cache of its own source: `Intake.Sound.cache_eq`.
-/

namespace MetricIntake

variable {ω : Type}

/-! ### Clients of a resolver -/

/-- What is under a name is not found once the name is left out, and nothing else changes. -/
theorem Named.lookup_filter_ne {κ α : Type} [DecidableEq κ] (name other : κ)
    (entries : List (κ × α)) :
    Named.lookup other (entries.filter (·.1 ≠ name)) =
      if other = name then none else Named.lookup other entries := by
  induction entries with
  | nil => simp [Named.lookup]
  | cons entry entries ih =>
    by_cases hn : entry.1 = name
    · rw [List.filter_cons_of_neg (by simp [hn]), ih]
      by_cases ho : other = name
      · rw [if_pos ho, if_pos ho]
      · rw [if_neg ho, if_neg ho, Named.lookup, if_neg fun h => ho (h.symm.trans hn)]
    · rw [List.filter_cons_of_pos (by simp [hn]), Named.lookup, Named.lookup, ih]
      by_cases ho : entry.1 = other
      · rw [if_pos ho, if_pos ho, if_neg (ho ▸ hn)]
      · rw [if_neg ho, if_neg ho]

namespace Resolver

variable (r : Resolver ω) (id other : String)

@[simp]
theorem note_next : (r.note id).next = r.next := by
  unfold note
  split <;> rfl

@[simp]
theorem client?_note : (r.note id).client? other = r.client? other := by
  unfold note
  split <;> rfl

theorem client?_bind (source : Source ω) :
    (r.bind id source).2.client? other =
      if other = id then some { serial := r.next, source } else r.client? other :=
  Named.lookup_put id other _ r.clients

theorem client?_unbind :
    (r.unbind id).client? other = if other = id then none else r.client? other :=
  Named.lookup_filter_ne id other r.clients

variable {r}

/-- To forget clients binds none. -/
theorem client?_of_drop {ids : List String} {id : String} {client : Client ω}
    (h : (r.drop ids).2.client? id = some client) : r.client? id = some client := by
  induction ids generalizing r with
  | nil => exact h
  | cons first ids ih =>
    have hrest : (((r.note first).unbind first).drop ids).2.client? id = some client := by
      rw [drop] at h
      dsimp only at h
      split at h <;> exact h
    have hunbind := ih hrest
    rw [client?_unbind, client?_note] at hunbind
    split at hunbind
    · cases hunbind
    · exact hunbind

theorem next_drop (ids : List String) : (r.drop ids).2.next = r.next := by
  induction ids generalizing r with
  | nil => rfl
  | cons first ids ih =>
    have hrest : (((r.note first).unbind first).drop ids).2.next = r.next := by
      rw [ih]
      exact note_next r first
    rw [drop]
    dsimp only
    split <;> exact hrest

theorem reset_eq_drop (r : Resolver ω) (id? : Option String) : ∃ ids, r.reset id? = r.drop ids := by
  cases id? with
  | none => exact ⟨r.known, rfl⟩
  | some id => exact ⟨[id], rfl⟩

end Resolver

/-! ### Caches of a registry -/

namespace CacheRegistry

variable {r : CacheRegistry}

theorem cache?_bind {client : Nat} (h : r.cache? client = none) (cache : Cache) (other : Nat) :
    (r.bind client cache).2.cache? other =
      if other = client then some { client, serial := r.next, cache } else r.cache? other := by
  rw [cache?, bind]
  dsimp only
  rw [List.find?_append]
  by_cases ho : other = client
  · have hnone : r.bindings.find? (·.client = client) = none := h
    simp [ho, hnone]
  · simp [ho, Ne.symm ho, cache?]

theorem cache?_discard (client other : Nat) :
    (r.discard client).cache? other = if other = client then none else r.cache? other := by
  rw [cache?, discard]
  dsimp only
  rw [List.find?_filter]
  split
  · rename_i ho
    rw [List.find?_eq_none]
    intro bound _ h
    obtain ⟨hne, heq⟩ := of_decide_eq_true h
    exact of_decide_eq_true hne ((of_decide_eq_true heq).trans ho)
  · rename_i ho
    rw [cache?]
    congr 1
    funext bound
    by_cases hb : bound.client = other
    · simp [hb, ho]
    · simp [hb]

/-- To discard caches binds none. -/
theorem cache?_of_discard {clients : List (Client ω)} {serial : Nat} {bound : BoundCache}
    (h : (clients.foldl (fun caches client => caches.discard client.serial) r).cache? serial =
      some bound) : r.cache? serial = some bound := by
  induction clients generalizing r with
  | nil => exact h
  | cons client clients ih =>
    have hdiscard := ih h
    rw [cache?_discard] at hdiscard
    split at hdiscard
    · cases hdiscard
    · exact hdiscard

end CacheRegistry

/-! ### Finding a client and its cache -/

/-- What the attempt to build a source comes to. -/
def builtOf : Except Failure (Source ω) → Except Failure (Option (Source ω))
  | .ok source => .ok (some source)
  | .error (.source _) => .ok none
  | .error (.fault f) => .error (.fault f)

namespace Intake

variable {s : Surroundings ω} {id : String} {k : Intake ω}

theorem resolve_of_some {client : Client ω} (h : k.resolver.client? id = some client) :
    k.resolve s id = (.ok (some client), k) := by
  unfold resolve
  rw [h]

/-- A source that has no client is built. -/
theorem resolve_of_none (h : k.resolver.client? id = none) :
    (k.resolve s id).1.map (Option.map (·.source)) = builtOf (s.build id k.outside).1 ∧
      (k.resolve s id).2.outside = (s.build id k.outside).2 ∧
      (k.resolve s id).2.events = k.events ++ [.built id] ∧
      ∀ other, (k.resolve s id).2.resolver.client? other =
        if other = id then
          match (s.build id k.outside).1 with
          | .ok source => some { serial := k.resolver.next, source }
          | .error _ => none
        else k.resolver.client? other := by
  -- to note an id binds nothing, and `id` has no client
  have hnote : ∀ other, (k.resolver.note id).client? other =
      if other = id then none else k.resolver.client? other := by
    intro other
    rw [Resolver.client?_note]
    split
    · rename_i ho
      rw [ho, h]
    · rfl
  unfold resolve emit
  rw [h]
  dsimp only
  rcases s.build id k.outside with ⟨(e | f) | source, outside⟩
  · exact ⟨rfl, rfl, rfl, hnote⟩
  · exact ⟨rfl, rfl, rfl, hnote⟩
  · refine ⟨rfl, rfl, rfl, ?_⟩
    intro other
    show ((k.resolver.note id).bind id source).2.client? other = _
    rw [Resolver.client?_bind, Resolver.note_next, hnote]
    split <;> rfl

theorem cacheOf_of_some {client : Client ω} {bound : BoundCache}
    (h : k.caches.cache? client.serial = some bound) : k.cacheOf s client = (.ok bound, k) := by
  unfold cacheOf
  rw [h]

/-- A client that has no cache is given one, if the store can be reached. -/
theorem cacheOf_of_none {client : Client ω} (h : k.caches.cache? client.serial = none)
    (hok : (s.connect k.outside).1 = .ok ()) :
    (∃ bound, (k.cacheOf s client).1 = .ok bound) ∧
      (k.cacheOf s client).2.outside = (s.connect k.outside).2 ∧
      (k.cacheOf s client).2.events = k.events ++ [.connected s.storeUrl] ∧
      ∀ serial, ((k.cacheOf s client).2.caches.cache? serial).map (·.cache) =
        if serial = client.serial then some (s.cache client.source.id)
        else (k.caches.cache? serial).map (·.cache) := by
  have hconnect : s.connect k.outside = (.ok (), (s.connect k.outside).2) := Prod.ext hok rfl
  unfold cacheOf emit
  rw [h]
  dsimp only
  rw [hconnect]
  refine ⟨⟨_, rfl⟩, rfl, rfl, ?_⟩
  intro serial
  dsimp only
  rw [CacheRegistry.cache?_bind h]
  split <;> rfl

end Intake

/-! ### Sources that are bound -/

/-- Sources are bound to ids only as `p` says. -/
def Intake.BindsOnly (p : String → Source ω → Prop) (k : Intake ω) : Prop :=
  ∀ ⦃id client⦄, k.resolver.client? id = some client → p id client.source

namespace Intake.BindsOnly

variable {s : Surroundings ω} {p : String → Source ω → Prop} {k k' : Intake ω}

theorem of_empty (h : k.resolver = .empty) : k.BindsOnly p := by
  intro id client hclient
  rw [h] at hclient
  cases hclient

theorem congr (h : k.BindsOnly p) (hresolver : k'.resolver = k.resolver) : k'.BindsOnly p := by
  intro id client hclient
  rw [hresolver] at hclient
  exact h hclient

theorem resolve (hp : ∀ ⦃id w source⦄, (s.build id w).1 = .ok source → p id source)
    (h : k.BindsOnly p) (id : String) : (k.resolve s id).2.BindsOnly p := by
  cases hnone : k.resolver.client? id with
  | some client =>
    rw [resolve_of_some hnone]
    exact h
  | none =>
    obtain ⟨-, -, -, hclients⟩ := resolve_of_none (s := s) hnone
    intro other client hclient
    rw [hclients] at hclient
    split at hclient
    · rename_i hother
      subst hother
      split at hclient
      · rename_i source hbuild
        obtain rfl := Option.some.inj hclient
        exact hp hbuild
      · cases hclient
    · exact h hclient

theorem reset (h : k.BindsOnly p) (id? : Option String) : (k.reset id?).BindsOnly p := by
  obtain ⟨ids, hids⟩ := k.resolver.reset_eq_drop id?
  intro id client hclient
  unfold Intake.reset at hclient
  rw [hids] at hclient
  exact h (Resolver.client?_of_drop hclient)

theorem step (hp : ∀ ⦃id w source⦄, (s.build id w).1 = .ok source → p id source)
    (h : k.BindsOnly p) (hstep : Step s k k') : k'.BindsOnly p := by
  cases hstep with
  | say records => exact h
  | resolve id => exact h.resolve hp id
  | connect hclient => exact h.congr (k.cacheOf_resolver s _)
  | miss => exact h
  | reset id? => exact h.reset id?
  | trigger => exact h
  | elapse i => exact h

end Intake.BindsOnly

/-- **What is true of every source that is built** stays true of every source that is bound. -/
theorem Trail.bindsOnly {s : Surroundings ω} {p : String → Source ω → Prop}
    (hp : ∀ ⦃id w source⦄, (s.build id w).1 = .ok source → p id source) {k m : Intake ω}
    {vs : List (Visit ω)} (h : Trail s k vs m) (hk : k.BindsOnly p) : m.BindsOnly p := by
  induction h with
  | nil k => exact hk
  | step hstep _ ih => exact ih (hk.step hp hstep)
  | @visit v m vs _ _ ih => exact ih (hk.congr v.after_resolver)

/-! ### The invariant -/

/-- Clients have numbers of their own, and caches are those of the ids that clients carry. -/
structure Intake.Coherent (s : Surroundings ω) (k : Intake ω) : Prop where
  numbered : ∀ ⦃id client⦄, k.resolver.client? id = some client → client.serial < k.resolver.next
  /-- Clients of different ids have different numbers. -/
  apart : ∀ ⦃id id' client client'⦄, k.resolver.client? id = some client →
    k.resolver.client? id' = some client' → client.serial = client'.serial → id = id'
  cached : ∀ ⦃id client bound⦄, k.resolver.client? id = some client →
    k.caches.cache? client.serial = some bound → bound.cache = s.cache client.source.id
  /-- A client that is yet to come has no cache yet. -/
  unbound : ∀ ⦃serial⦄, k.resolver.next ≤ serial → k.caches.cache? serial = none

namespace Intake.Coherent

variable {s : Surroundings ω} {k k' : Intake ω}

theorem fresh (s : Surroundings ω) (outside : ω) (store : Store) (clock : Clock) (meter : String) :
    (Intake.fresh outside store clock meter).Coherent s := by
  constructor
  · rintro id client ⟨⟩
  · rintro id id' client client' ⟨⟩
  · rintro id client bound ⟨⟩
  · intro serial _
    rfl

/-- The invariant stays when clients and caches are forgotten. -/
theorem of_le (h : k.Coherent s)
    (hclients : ∀ id client, k'.resolver.client? id = some client →
      k.resolver.client? id = some client)
    (hnext : k'.resolver.next = k.resolver.next)
    (hcaches : ∀ serial bound, k'.caches.cache? serial = some bound →
      k.caches.cache? serial = some bound) : k'.Coherent s := by
  constructor
  · intro id client hclient
    rw [hnext]
    exact h.numbered (hclients _ _ hclient)
  · intro id id' client client' hclient hclient' hserial
    exact h.apart (hclients _ _ hclient) (hclients _ _ hclient') hserial
  · intro id client bound hclient hcache
    exact h.cached (hclients _ _ hclient) (hcaches _ _ hcache)
  · intro serial hserial
    rw [Option.eq_none_iff_forall_ne_some]
    intro bound hcache
    have hnone := h.unbound (hnext ▸ hserial)
    rw [hcaches _ _ hcache] at hnone
    cases hnone

/-- The invariant is about the resolver and the caches only. -/
theorem congr (h : k.Coherent s) (hresolver : k'.resolver = k.resolver)
    (hcaches : k'.caches = k.caches) : k'.Coherent s := by
  apply h.of_le
  · rw [hresolver]
    exact fun _ _ h => h
  · rw [hresolver]
  · rw [hcaches]
    exact fun _ _ h => h

/-- All that matters of the surroundings is which cache a source has. -/
theorem of_cache_eq {s' : Surroundings ω} (h : k.Coherent s) (hcache : s'.cache = s.cache) :
    k.Coherent s' := by
  refine ⟨h.numbered, h.apart, ?_, h.unbound⟩
  rw [hcache]
  exact h.cached

/-- A new client has a number of its own, for which there is no cache yet. -/
theorem bindClient (h : k.Coherent s) (id : String) (source : Source ω) :
    ({ k with resolver := (k.resolver.bind id source).2 } : Intake ω).Coherent s := by
  -- a client is the new one or was there before
  have hold : ∀ ⦃id' client⦄, (k.resolver.bind id source).2.client? id' = some client →
      (id' = id ∧ client = { serial := k.resolver.next, source }) ∨
        k.resolver.client? id' = some client := by
    intro id' client hclient
    rw [Resolver.client?_bind] at hclient
    split at hclient
    · rename_i hid'
      exact .inl ⟨hid', (Option.some.inj hclient).symm⟩
    · exact .inr hclient
  constructor
  · intro id' client hclient
    show client.serial < k.resolver.next + 1
    rcases hold hclient with ⟨rfl, rfl⟩ | hclient
    · exact Nat.lt_succ_self _
    · exact Nat.lt_succ_of_lt (h.numbered hclient)
  · intro id' id'' client client' hclient hclient' hserial
    -- the number of the new client is above those of all others
    rcases hold hclient with ⟨rfl, rfl⟩ | hclient <;>
      rcases hold hclient' with ⟨rfl, rfl⟩ | hclient'
    · rfl
    · exact absurd hserial (Nat.ne_of_lt (h.numbered hclient')).symm
    · rename_i hold'
      exact absurd hserial (Nat.ne_of_lt (h.numbered hold'))
    · exact h.apart hclient hclient' hserial
  · intro id' client bound hclient hcache
    rcases hold hclient with ⟨rfl, rfl⟩ | hclient
    · have hnone := h.unbound (Nat.le_refl k.resolver.next)
      rw [hcache] at hnone
      cases hnone
    · exact h.cached hclient hcache
  · intro serial hserial
    exact h.unbound (Nat.le_of_succ_le hserial)

theorem resolve (h : k.Coherent s) (id : String) : (k.resolve s id).2.Coherent s := by
  unfold Intake.resolve
  split
  · exact h
  · dsimp only
    have hnote : ({ k with resolver := k.resolver.note id } : Intake ω).Coherent s := by
      apply h.of_le
      · intro id' client hclient
        rwa [Resolver.client?_note] at hclient
      · exact Resolver.note_next ..
      · exact fun _ _ h => h
    split
    · exact hnote.congr rfl rfl
    · exact hnote.congr rfl rfl
    · rename_i source outside hbuild
      exact (hnote.bindClient id source).congr rfl rfl

/-- A new cache of a client is that of the id that it carries. -/
theorem bindCache (h : k.Coherent s) {id : String} {client : Client ω}
    (hclient : k.resolver.client? id = some client)
    (hnone : k.caches.cache? client.serial = none) :
    ({ k with caches := (k.caches.bind client.serial (s.cache client.source.id)).2 } :
      Intake ω).Coherent s := by
  constructor
  · exact h.numbered
  · exact h.apart
  · intro id' client' bound hclient' hcache
    dsimp only at hclient' hcache
    rw [CacheRegistry.cache?_bind hnone] at hcache
    split at hcache
    · -- the new cache: only the client of `id` has this number
      rename_i hserial
      obtain rfl := h.apart hclient' hclient hserial
      obtain rfl := Option.some.inj (hclient'.symm.trans hclient)
      obtain rfl := Option.some.inj hcache
      rfl
    · exact h.cached hclient' hcache
  · intro serial hserial
    have hne : serial ≠ client.serial :=
      (Nat.ne_of_lt (Nat.lt_of_lt_of_le (h.numbered hclient) hserial)).symm
    dsimp only
    rw [CacheRegistry.cache?_bind hnone, if_neg hne]
    exact h.unbound hserial

theorem cacheOf (h : k.Coherent s) {id : String} {client : Client ω}
    (hclient : k.resolver.client? id = some client) : (k.cacheOf s client).2.Coherent s := by
  unfold Intake.cacheOf
  split
  · exact h
  · rename_i hnone
    dsimp only
    split
    · exact h.congr rfl rfl
    · exact (h.bindCache hclient hnone).congr rfl rfl

theorem reset (h : k.Coherent s) (id? : Option String) : (k.reset id?).Coherent s := by
  obtain ⟨ids, hids⟩ := k.resolver.reset_eq_drop id?
  unfold Intake.reset
  rw [hids]
  apply h.of_le
  · intro id client hclient
    exact Resolver.client?_of_drop hclient
  · exact Resolver.next_drop ids
  · intro serial bound hcache
    exact CacheRegistry.cache?_of_discard hcache

theorem step (h : k.Coherent s) (hstep : Step s k k') : k'.Coherent s := by
  cases hstep with
  | say records => exact h.congr rfl rfl
  | resolve id => exact h.resolve id
  | connect hclient => exact h.cacheOf hclient
  | miss => exact h.congr rfl rfl
  | reset id? => exact h.reset id?
  | trigger => exact h.congr rfl rfl
  | elapse i => exact h.congr rfl rfl

/-- A client finds the cache of the id that it carries. -/
theorem cache_of_cacheOf (h : k.Coherent s) {id : String} {client : Client ω} {bound : BoundCache}
    (hclient : k.resolver.client? id = some client) (hb : (k.cacheOf s client).1 = .ok bound) :
    bound.cache = s.cache client.source.id := by
  have hclient' : (k.cacheOf s client).2.resolver.client? id = some client := by
    rw [Intake.cacheOf_resolver]
    exact hclient
  exact (h.cacheOf hclient).cached hclient' (Intake.cache?_of_cacheOf hb)

/-- A visit finds the cache of the id that its client carries. -/
theorem cache_eq {v : Visit ω} (h : v.before.Coherent s) (hv : v.Attached) :
    v.cache = s.cache v.client.source.id := by
  obtain ⟨bound, hcache, hbound⟩ := hv.cache
  rw [← hbound]
  exact h.cached hv.client hcache

end Intake.Coherent

/-- **Whatever happens, numbers and caches stay as they should be.** -/
theorem Trail.coherent {s : Surroundings ω} {k m : Intake ω} {vs : List (Visit ω)}
    (h : Trail s k vs m) (hk : k.Coherent s) : m.Coherent s := by
  induction h with
  | nil k => exact hk
  | step hstep _ ih => exact ih (hk.step hstep)
  | @visit v m vs _ _ ih => exact ih (hk.congr v.after_resolver v.after_caches)

/-! ### Clients that carry their ids -/

/-- A source that is built for an id carries that id. -/
def Surroundings.Carries (s : Surroundings ω) : Prop :=
  ∀ ⦃id outside source⦄, (s.build id outside).1 = .ok source → source.id = id

/-- Clients and caches are bound as they should be. -/
structure Intake.Sound (s : Surroundings ω) (k : Intake ω) : Prop where
  /-- A client carries the id that it is bound to. -/
  carries : ∀ ⦃id client⦄, k.resolver.client? id = some client → client.source.id = id
  numbered : ∀ ⦃id client⦄, k.resolver.client? id = some client → client.serial < k.resolver.next
  /-- Clients of different ids have different numbers. -/
  apart : ∀ ⦃id id' client client'⦄, k.resolver.client? id = some client →
    k.resolver.client? id' = some client' → client.serial = client'.serial → id = id'
  cached : ∀ ⦃id client bound⦄, k.resolver.client? id = some client →
    k.caches.cache? client.serial = some bound → bound.cache = s.cache id
  /-- A client that is yet to come has no cache yet. -/
  unbound : ∀ ⦃serial⦄, k.resolver.next ≤ serial → k.caches.cache? serial = none

/-- An intake is sound if it is coherent and its clients carry their ids. -/
theorem Intake.sound_iff {s : Surroundings ω} {k : Intake ω} :
    k.Sound s ↔ k.Coherent s ∧ k.BindsOnly fun id source => source.id = id := by
  constructor
  · rintro ⟨hcarries, hnumbered, hapart, hcached, hunbound⟩
    refine ⟨⟨hnumbered, hapart, ?_, hunbound⟩, hcarries⟩
    intro id client bound hclient hcache
    rw [hcached hclient hcache, hcarries hclient]
  · rintro ⟨⟨hnumbered, hapart, hcached, hunbound⟩, hcarries⟩
    refine ⟨hcarries, hnumbered, hapart, ?_, hunbound⟩
    intro id client bound hclient hcache
    rw [hcached hclient hcache, hcarries hclient]

namespace Intake.Sound

variable {s : Surroundings ω} {k k' : Intake ω}

theorem coherent (h : k.Sound s) : k.Coherent s :=
  (sound_iff.1 h).1

theorem binds (h : k.Sound s) : k.BindsOnly fun id source => source.id = id :=
  (sound_iff.1 h).2

theorem fresh (s : Surroundings ω) (outside : ω) (store : Store) (clock : Clock) (meter : String) :
    (Intake.fresh outside store clock meter).Sound s :=
  sound_iff.2 ⟨.fresh .., .of_empty rfl⟩

theorem congr (h : k.Sound s) (hresolver : k'.resolver = k.resolver)
    (hcaches : k'.caches = k.caches) : k'.Sound s :=
  sound_iff.2 ⟨h.coherent.congr hresolver hcaches, h.binds.congr hresolver⟩

theorem resolve (hs : s.Carries) (h : k.Sound s) (id : String) : (k.resolve s id).2.Sound s :=
  sound_iff.2 ⟨h.coherent.resolve id, h.binds.resolve hs id⟩

theorem reset (h : k.Sound s) (id? : Option String) : (k.reset id?).Sound s :=
  sound_iff.2 ⟨h.coherent.reset id?, h.binds.reset id?⟩

/-- A client finds the cache of the id that it is bound to. -/
theorem cache_of_cacheOf (h : k.Sound s) {id : String} {client : Client ω} {bound : BoundCache}
    (hclient : k.resolver.client? id = some client) (hb : (k.cacheOf s client).1 = .ok bound) :
    bound.cache = s.cache id := by
  rw [h.coherent.cache_of_cacheOf hclient hb, h.carries hclient]

/-- A visit finds the cache of its own source. -/
theorem cache_eq {v : Visit ω} (h : v.before.Sound s) (hv : v.Attached) :
    v.cache = s.cache v.request.source := by
  rw [h.coherent.cache_eq hv, h.carries hv.client]

end Intake.Sound

/-- **Whatever happens, bindings stay as they should be.** -/
theorem Trail.sound {s : Surroundings ω} (hs : s.Carries) {k m : Intake ω} {vs : List (Visit ω)}
    (h : Trail s k vs m) (hk : k.Sound s) : m.Sound s :=
  Intake.sound_iff.2 ⟨h.coherent hk.coherent, h.bindsOnly hs hk.binds⟩

end MetricIntake
