import MetricIntake.Proofs.Scripted

/-!
# Where entries come from

Every entry of the store was written by a visit: it is the sample that the source gave, as it is,
for a request whose key and whose time to live it has (`Visit.Wrote`).  A visit writes nothing else
(`Visit.wrote_of_written?`), and nothing but visits writes (`Store.Accounted.step`).  So it is along
every trail (`Trail.accounted`) and at every point of a run: `stored_entries_come_from_fetches`.
-/

namespace MetricIntake

variable {ω : Type}

/-! ### What a visit writes -/

/-- The visit wrote an entry under a key. -/
structure Visit.Wrote (v : Visit ω) (key : String) (e : Entry) (sample : Sample) : Prop where
  key_eq : key = v.storeKey
  /-- The source was asked for the metric of the request. -/
  called : ∃ requests, v.after.events = v.before.events ++
    .asked v.client.source.profile v.client.source.id v.request.name :: requests
  /-- The sample is what it returned. -/
  returned : v.reply.outcome = .ok (some sample)
  bytes_eq : e.bytes = sample.dumpBytes
  whole : sample.halves? = none
  ttl_eq : e.ttl = v.request.cacheMillis
  ttl_pos : 0 < v.request.cacheMillis
  inTime : sample.value ≠ Sample.timeoutValue
  dated : ∃ time, readUtcTime sample.updatedAt = .ok time
  numeric : ∃ value, readNumber sample.value = .ok value

/-- A visit that leaves an entry wrote it. -/
theorem Visit.wrote_of_written? {v : Visit ω} {e : Entry} (h : v.written? = some e) :
    ∃ sample, v.Wrote v.storeKey e sample := by
  obtain ⟨resolution, reading, sample?, -, hjudge, hhalves, hcache, rfl, hasks, hreply, hsettle⟩ :=
    loaded_of_written? h
  obtain ⟨rfl, hpos, htimeout⟩ := settle_shouldCache hsettle hcache
  obtain ⟨hdated, hnumeric⟩ := judge_accepted hjudge
  have hevents := v.after_events
  rw [if_pos hasks] at hevents
  exact ⟨resolution.sample, rfl, ⟨_, hevents⟩, hreply, rfl, hhalves, rfl, hpos,
    of_decide_eq_false htimeout, hdated, hnumeric⟩

/-! ### Accounted stores -/

/-- Each entry of the store was written by one of the visits. -/
def Store.Accounted (store : Store) (past : List (Visit ω)) : Prop :=
  ∀ key e, (key, e) ∈ store.entries → ∃ v ∈ past, ∃ sample, v.Wrote key e sample

/-- What is under a name after one value was put is that value or was there before. -/
theorem Named.mem_put {κ α : Type} [DecidableEq κ] {name other : κ} {value found : α}
    {entries : List (κ × α)} (h : (other, found) ∈ Named.put name value entries) :
    (other = name ∧ found = value) ∨ (other, found) ∈ entries := by
  induction entries with
  | nil =>
    rw [Named.put, List.mem_singleton, Prod.mk.injEq] at h
    exact .inl h
  | cons entry entries ih =>
    obtain ⟨n, x⟩ := entry
    rw [Named.put] at h
    split at h
    · rename_i hn
      rcases List.mem_cons.1 h with heq | hmem
      · obtain ⟨rfl, rfl⟩ := Prod.mk.inj heq
        exact .inl ⟨hn, rfl⟩
      · exact .inr (List.mem_cons_of_mem _ hmem)
    · rcases List.mem_cons.1 h with heq | hmem
      · exact .inr (heq ▸ List.mem_cons_self)
      · rcases ih hmem with hput | hold
        · exact .inl hput
        · exact .inr (List.mem_cons_of_mem _ hold)

/-- What is found under a name is there. -/
theorem Named.mem_of_lookup {κ α : Type} [DecidableEq κ] {name : κ} {value : α}
    {entries : List (κ × α)} (h : Named.lookup name entries = some value) :
    (name, value) ∈ entries := by
  induction entries with
  | nil => cases h
  | cons entry entries ih =>
    rw [Named.lookup] at h
    split at h
    · rename_i hname
      obtain rfl := Option.some.inj h
      exact hname ▸ List.mem_cons_self
    · exact List.mem_cons_of_mem _ (ih h)

namespace Store.Accounted

variable {store : Store} {past : List (Visit ω)}

theorem of_empty (h : store.entries = []) : store.Accounted ([] : List (Visit ω)) := by
  intro key e he
  rw [h] at he
  cases he

theorem append (h : store.Accounted past) (more : List (Visit ω)) :
    store.Accounted (past ++ more) := by
  intro key e he
  obtain ⟨v, hv, hwrote⟩ := h key e he
  exact ⟨v, List.mem_append_left _ hv, hwrote⟩

theorem of_subset {store' : Store} (h : store.Accounted past)
    (hsub : ∀ entry ∈ store'.entries, entry ∈ store.entries) : store'.Accounted past :=
  fun key e he => h key e (hsub _ he)

/-- Entries that expire need no account. -/
theorem eraseAll (h : store.Accounted past) (keys : List String) :
    (keys.foldl Store.erase store).Accounted past := by
  induction keys generalizing store with
  | nil => exact h
  | cons key keys ih =>
    apply ih
    apply h.of_subset
    intro entry hentry
    exact (List.mem_filter.1 hentry).1

/-- Nothing but a visit writes. -/
theorem step {s : Surroundings ω} {k k' : Intake ω} (h : k.store.Accounted past)
    (hstep : Step s k k') : k'.store.Accounted past := by
  cases hstep with
  | say records => exact h
  | resolve id =>
    rw [Intake.resolve_store]
    exact h
  | connect _ =>
    rw [Intake.cacheOf_store]
    exact h
  | miss => exact h
  | reset id? => exact h
  | trigger => exact h
  | elapse i => exact (h.eraseAll i.expired).of_subset fun _ hentry => hentry

/-- A visit accounts for what it writes. -/
theorem visit {v : Visit ω} (h : v.before.store.Accounted past) :
    v.after.store.Accounted (past ++ [v]) := by
  rw [v.after_store, Visit.storeOf]
  cases hw : v.entryOf v.fate with
  | none => exact h.append [v]
  | some entry =>
    intro key e he
    rcases Named.mem_put he with ⟨rfl, rfl⟩ | hold
    · exact ⟨v, List.mem_append_right _ List.mem_cons_self, Visit.wrote_of_written? hw⟩
    · exact h.append [v] key e hold

end Store.Accounted

/-- Entries stay accounted for, in whatever order things happen. -/
theorem Trail.accounted {s : Surroundings ω} {k m : Intake ω} {past vs : List (Visit ω)}
    (h : Trail s k vs m) (hk : k.store.Accounted past) : m.store.Accounted (past ++ vs) := by
  -- the visits that account for the store grow along the trail
  induction h generalizing past with
  | nil k =>
    rw [List.append_nil]
    exact hk
  | step hstep _ ih => exact ih (hk.step hstep)
  | @visit v m vs _ _ ih =>
    rw [show past ++ v :: vs = (past ++ [v]) ++ vs from List.append_cons ..]
    exact ih hk.visit

/-! ### Runs from an empty store -/

/-- **Entries come from fetches**: in a run from an empty store, at its end as well as before and
after each request on the way, each entry of the store is a sample that an earlier request was given
by its source.  No default value is ever stored, no sample of a source that ran out of time, and no
sample that is not a reading. -/
theorem stored_entries_come_from_fetches (s : Surroundings ω) (commands : List (Command ω))
    (k : Intake ω) (hempty : k.store.entries = []) :
    (k.run s commands).store.Accounted (visits s commands k) ∧
      ∀ past v rest, visits s commands k = past ++ v :: rest →
        v.Attached ∧ v.before.store.Accounted past ∧ v.after.store.Accounted (past ++ [v]) := by
  have hk : k.store.Accounted ([] : List (Visit ω)) := .of_empty hempty
  constructor
  · exact (trail_run commands k).accounted hk
  · intro past v rest hvisits
    obtain ⟨hpast, hv, -⟩ := trail_of_visits hvisits
    have hbefore : v.before.store.Accounted past := hpast.accounted hk
    exact ⟨hv, hbefore, hbefore.visit⟩

/-- A source whose sample is stored, and another one that ran out of time. -/
def storing : Surroundings (String → Nat) :=
  .scripted fun id =>
    if id = "a" then
      some (.constant { name := "m", value := "1", updatedAt := "2026-01-20T10:15:00Z" })
    else
      some (.constant { name := "m", value := "Timeout", updatedAt := "2026-01-20T10:15:00Z" })

/-- Both sources are asked for something to store. -/
def stores : List (Command (String → Nat)) :=
  [.process [⟨"a", "m", none, 1000⟩, ⟨"b", "m", none, 1000⟩, ⟨"b", "n", some .zero, 1000⟩]]

theorem stored_entries_of_storing :
    Intake.unused.store.entries = [] ∧
      (Intake.unused.run storing stores).store.entries.map Prod.fst = ["sampleduct:a:a:m"] ∧
      (Intake.unused.run storing stores).store.Accounted (visits storing stores .unused) := by
  refine ⟨rfl, ?_, ?_⟩
  · decide +kernel
  · exact (stored_entries_come_from_fetches storing stores .unused rfl).1

end MetricIntake
