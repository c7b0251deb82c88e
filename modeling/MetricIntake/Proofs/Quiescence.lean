import MetricIntake.Proofs.Accounting
import MetricIntake.Proofs.Answers
import MetricIntake.Proofs.Bindings
import MetricIntake.Proofs.Chain

/-!
# After a shutdown was requested

Once a shutdown was requested, no source is asked any more: `quiescent_after_shutdown`.  The
invariant is the flag itself.  A request that finds it set asks nothing (`Visit.asks_of_stopping`),
and neither a request nor anything between requests clears it (`Trail.rests`), so all that is left
to happen is that clients and caches are found and that cached samples are served.
-/

namespace MetricIntake

variable {ω : Type} {s : Surroundings ω}

/-! ### What still happens -/

/-- From one intake to the other no source is asked. -/
structure Intake.Rests (k m : Intake ω) : Prop where
  stopping : k.stopping = true → m.stopping = true
  timers : m.metrics.timers = k.metrics.timers
  events : ∃ more, m.events = k.events ++ more ∧ ∀ e ∈ more, e.isBinding = true

namespace Intake.Rests

variable {k m n : Intake ω}

theorem refl (k : Intake ω) : k.Rests k :=
  ⟨id, rfl, [], (List.append_nil _).symm, fun _ he => absurd he List.not_mem_nil⟩

theorem trans (h : k.Rests m) (h' : m.Rests n) : k.Rests n := by
  obtain ⟨more, hmore, hall⟩ := h.events
  obtain ⟨more', hmore', hall'⟩ := h'.events
  refine ⟨fun hk => h'.stopping (h.stopping hk), h'.timers.trans h.timers, more ++ more', ?_, ?_⟩
  · rw [hmore', hmore, List.append_assoc]
  · intro e he
    rcases List.mem_append.1 he with he | he
    · exact hall e he
    · exact hall' e he

/-- Nothing that is not a visit asks a source. -/
theorem step (h : Step s k m) : k.Rests m := by
  cases h with
  | say records => exact ⟨id, rfl, (refl k).events⟩
  | resolve id =>
    refine ⟨fun hk => ?_, ?_, k.resolve_events s id⟩
    · rw [Intake.resolve_stopping, hk]
    · rw [Intake.resolve_metrics]
  | connect hclient =>
    refine ⟨fun hk => ?_, ?_, k.cacheOf_events s _⟩
    · rw [Intake.cacheOf_stopping, hk]
    · rw [Intake.cacheOf_metrics]
  | miss => exact ⟨id, rfl, (refl k).events⟩
  | reset id? => exact ⟨id, rfl, (refl k).events⟩
  | trigger => exact ⟨fun _ => rfl, rfl, (refl k).events⟩
  | elapse i => exact ⟨id, rfl, (refl k).events⟩

end Intake.Rests

namespace Visit

variable {v : Visit ω}

/-- The poll: a request that finds the flag set does not ask. -/
theorem asks_of_stopping (h : v.before.stopping = true) : v.asks = false := by
  rw [← Bool.not_eq_true, asks_eq_true_iff, h]
  exact fun hasks => absurd hasks.2 Bool.true_eq_false.mp

theorem rests (h : v.before.stopping = true) : v.before.Rests v.after := by
  have hasks := asks_of_stopping h
  refine ⟨fun _ => ?_, after_timers_of_not_asks hasks, [], ?_,
    fun _ he => absurd he List.not_mem_nil⟩
  · rw [v.after_stopping, h, Bool.true_or]
  · rw [after_events_of_not_asks hasks, List.append_nil]

end Visit

/-- **Once the flag is set it stays set and no source is asked**, along every trail. -/
theorem Trail.rests {k m : Intake ω} {vs : List (Visit ω)} (h : Trail s k vs m)
    (hk : k.stopping = true) :
    k.Rests m ∧ ∀ v ∈ vs, v.asks = false := by
  induction h with
  | nil k => exact ⟨.refl k, fun v hv => absurd hv List.not_mem_nil⟩
  | step hstep _ ih =>
    have hrests := Intake.Rests.step hstep
    obtain ⟨hmore, hvs⟩ := ih (hrests.stopping hk)
    exact ⟨hrests.trans hmore, hvs⟩
  | @visit v m vs _ _ ih =>
    have hrests := Visit.rests hk
    obtain ⟨hmore, hvs⟩ := ih (hrests.stopping hk)
    refine ⟨hrests.trans hmore, ?_⟩
    rintro w (_ | ⟨_, hw⟩)
    · exact Visit.asks_of_stopping hk
    · exact hvs w hw

/-! ### Failures -/

/-- Once the flag is set only sources without a client count as failed. -/
theorem run_failed {commands : List (Command ω)} {k : Intake ω} (hk : k.stopping = true) :
    (k.run s commands).metrics.counts.failed =
      k.metrics.counts.failed +
        ((calls s commands k).map fun c => (c.turns s).countP (·.missed s)).sum := by
  induction commands generalizing k with
  | nil => rfl
  | cons command rest ih =>
    cases command with
    | process batch =>
      let c : Call ω := { batch, before := k }
      obtain ⟨hrests, hasks⟩ := (trail_call (s := s) c).rests hk
      have hnone : (c.visits s).countP (·.fate.outcome? = some .failed) = 0 := by
        rw [List.countP_eq_zero]
        intro v hv
        rw [decide_eq_true_eq]
        exact Visit.outcome?_of_not_asks (hasks v hv)
      have hcall : (k.process s batch).2.metrics.counts.failed =
          k.metrics.counts.failed + (c.turns s).countP (·.missed s) := by
        have hcounts := c.process_counts (s := s) .failed
        rwa [hnone, if_pos rfl] at hcounts
      have hmore := ih (k := (k.process s batch).2) (hrests.stopping hk)
      rw [hcall, Nat.add_assoc] at hmore
      exact hmore
    | reset id? => exact ih (k := k.reset id?) hk
    | trigger => exact ih (k := k.trigger) rfl
    | elapse i => exact ih (k := k.elapse i) hk

/-! ### Quiescence -/

/-- What a run comes to if a shutdown was requested before it. -/
structure Intake.Quiescent (s : Surroundings ω) (k : Intake ω) (commands : List (Command ω)) :
    Prop where
  stopping : (k.run s commands).stopping = true
  /-- No source is asked. -/
  asks : ∀ v ∈ visits s commands k, v.asks = false
  events : ∃ more, (k.run s commands).events = k.events ++ more ∧ ∀ e ∈ more, e.isBinding = true
  timers : (k.run s commands).metrics.timers = k.metrics.timers
  store : (k.run s commands).store = k.store
  /-- All that fails is that sources have no client. -/
  failed : (k.run s commands).metrics.counts.failed =
    k.metrics.counts.failed +
      ((calls s commands k).map fun c => (c.turns s).countP (·.missed s)).sum
  /-- Every row is the reading of the sample that the store has under the key of a request. -/
  rows : ∀ c ∈ calls s commands k, ∀ rows, c.rows s = .ok rows → ∀ row ∈ rows,
    ∃ v ∈ c.visits s, v.request ∈ c.batch ∧ ∃ sample reading,
      v.cache.look k.store v.request.cacheKey = .ok (.found sample) ∧
        sample.judge = .accepted reading ∧ row = [reading]
  /-- The key is that of the client of the request. -/
  cache : k.Coherent s → ∀ v ∈ visits s commands k, v.cache = s.cache v.client.source.id
  /-- It is that of the request's own source if clients carry the ids of their sources. -/
  carries : s.Carries → k.Sound s → ∀ v ∈ visits s commands k,
    v.client.source.id = v.request.source

theorem Intake.Quiescent.of_stopping {k : Intake ω} {commands : List (Command ω)}
    (hk : k.stopping = true) (hspares : ∀ command ∈ commands, command.Spares k.store) :
    k.Quiescent s commands := by
  obtain ⟨hrests, hasks⟩ := (trail_run (s := s) commands k).rests hk
  -- no visit changes the store, so that each of them finds the store of the start
  obtain ⟨hfound, hstore⟩ := (chained_store_run (s := s) hspares).eq_of_forall fun v hv =>
    Visit.after_store_of_not_asks (hasks v hv)
  constructor
  · exact hrests.stopping hk
  · exact hasks
  · exact hrests.events
  · exact hrests.timers
  · exact hstore
  · exact run_failed hk
  · intro c hc rows hrows row hrow
    rw [Call.rows_eq hrows] at hrow
    obtain ⟨v, hv, hvrow⟩ := List.mem_filterMap.1 hrow
    have hmem : v ∈ visits s commands k := List.mem_flatMap.2 ⟨c, hc, hv⟩
    obtain ⟨sample, reading, hcached, hjudge, hreading⟩ :=
      Visit.row?_of_not_asks (hasks v hmem) hvrow
    rw [Visit.cached_eq_some_iff, hfound v hmem] at hcached
    exact ⟨v, hv, Call.request_mem hv, sample, reading, hcached, hjudge, hreading⟩
  · intro hcoherent v hv
    obtain ⟨past, rest, hvisits⟩ := List.append_of_mem hv
    obtain ⟨hpast, hattached, -⟩ := trail_of_visits hvisits
    exact (hpast.coherent hcoherent).cache_eq hattached
  · intro hs hsound v hv
    obtain ⟨past, rest, hvisits⟩ := List.append_of_mem hv
    obtain ⟨hpast, hattached, -⟩ := trail_of_visits hvisits
    exact (hpast.sound hs hsound).carries hattached.client

/-- **Quiescence after a shutdown**: from every intake whose flag is set, whatever is processed,
forgotten or requested from then on and whatever the store has, the flag stays set, no source is
asked, the store and the timers stay as they are, `failed` grows by one for each source of a batch
that has no client, and each row is the reading of the sample that the store has under the key of
its request.  If the flag becomes set within a batch, this is while a source is asked; no source is
asked after that, and the store of the end is the one that this request leaves. -/
theorem quiescent_after_shutdown (s : Surroundings ω) :
    (∀ (k : Intake ω) (commands : List (Command ω)), k.stopping = true →
      (∀ command ∈ commands, command.Spares k.store) → k.Quiescent s commands) ∧
    ∀ (c : Call ω) (past rest : List (Visit ω)) (v : Visit ω),
      c.visits s = past ++ v :: rest → v.before.stopping = false → v.after.stopping = true →
        v.asks = true ∧ (∀ w ∈ rest, w.asks = false ∧ w.written? = none) ∧
          (c.before.process s c.batch).2.store =
            (match v.written? with
              | some e => v.before.store.insert v.storeKey e
              | none => v.before.store) ∧
          ∃ more, (c.before.process s c.batch).2.events = v.after.events ++ more ∧
            ∀ e ∈ more, e.isBinding = true := by
  refine ⟨fun k commands hk hspares => .of_stopping hk hspares, ?_⟩
  intro c past rest v hvisits hbefore hafter
  have htrail := trail_call (s := s) c
  rw [hvisits] at htrail
  obtain ⟨-, -, hrest⟩ := htrail.split
  obtain ⟨hrests, hasks⟩ := hrest.rests hafter
  have hchain := chained_call (byVisits_store s) c
  rw [hvisits] at hchain
  obtain ⟨-, hstores⟩ := hchain.split
  have hstore := (hstores.eq_of_forall fun w hw =>
    Visit.after_store_of_not_asks (hasks w hw)).2
  refine ⟨?_, fun w hw => ⟨hasks w hw, Visit.written?_of_not_asks (hasks w hw)⟩, ?_,
    hrests.events⟩
  · -- only a reply sets the flag
    rw [v.after_stopping, hbefore, Bool.false_or, Bool.and_eq_true] at hafter
    exact hafter.1
  · rw [hstore, v.after_store]
    rfl

/-- A batch in which the last thing that a source is asked for ends in a shutdown. -/
def closing : List Request :=
  [⟨"a", "m", none, 1000⟩, ⟨"a", "last", none, 1000⟩, ⟨"a", "n", none, 1000⟩, ⟨"b", "m", none, 0⟩]

/-- What is still to be done after it. -/
def afterwards : List (Command (String → Nat)) :=
  [.reset none, .process [⟨"a", "m", none, 0⟩, ⟨"a", "n", none, 0⟩, ⟨"b", "m", none, 0⟩], .trigger,
    .process [⟨"b", "m", none, 0⟩]]

/-- The second request of the batch is the last one that asks, and afterwards the sample of the
first one is still served. -/
theorem quiescent_after_closing :
    (Intake.unused.process interruptible closing).2.Quiescent interruptible afterwards ∧
      ((calls interruptible afterwards (Intake.unused.process interruptible closing).2).map
        (·.rowCount interruptible)) = [1, 0] ∧
      ((Intake.unused.process interruptible closing).2.run interruptible afterwards).metrics.counts
        = ⟨2, 1, 3⟩ ∧
      ∃ past v rest,
        Call.visits interruptible ⟨closing, .unused⟩ = past ++ v :: rest ∧
          v.request.name = "last" ∧ v.after.stopping = true ∧
          (∀ w ∈ rest, w.asks = false ∧ w.written? = none) := by
  obtain ⟨hrun, hcall⟩ := quiescent_after_shutdown interruptible
  refine ⟨hrun _ _ ?_ ?_, ?_, ?_, ?_⟩
  · decide +kernel
  · simp [afterwards, Command.Spares]
  · decide +kernel
  · decide +kernel
  · obtain ⟨v, hv, hname, hbefore, hafter⟩ :
        ∃ v ∈ Call.visits interruptible ⟨closing, .unused⟩, v.request.name = "last" ∧
          v.before.stopping = false ∧ v.after.stopping = true := by
      decide +kernel
    obtain ⟨past, rest, hvisits⟩ := List.append_of_mem hv
    obtain ⟨-, hrest, -⟩ := hcall _ past rest v hvisits hbefore hafter
    exact ⟨past, v, rest, hvisits, hname, hafter, hrest⟩

end MetricIntake
