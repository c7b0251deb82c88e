import MetricIntake.Intake.State

/-!
# Fetches

What asking a source does to an intake, one lemma for each part, and what it means for two intakes
to be the same but for their records: `Intake.quiet`.
-/

namespace MetricIntake

variable {ω : Type}

namespace Intake

/-! ### Records aside -/

/-- The intake without what was said. -/
def quiet (k : Intake ω) : Intake ω := { k with records := [] }

/-- Intakes that are the same but for their records stay so when the same is done to them. -/
theorem quiet_congr {k k' : Intake ω} (h : k.quiet = k'.quiet) (store : Store)
    (f : Metrics → Metrics) :
    { k with store, metrics := f k.metrics }.quiet =
      { k' with store, metrics := f k'.metrics }.quiet :=
  congrArg (fun q : Intake ω => { q with store, metrics := f q.metrics }.quiet) h

/-- What does not depend on the records is the same of intakes that are the same but for them. -/
theorem eq_of_quiet {α : Type} {k k' : Intake ω} (f : Intake ω → α) (hf : ∀ k, f k.quiet = f k)
    (h : k.quiet = k'.quiet) : f k = f k' := by
  rw [← hf k, h, hf]

/-! ### Asking a source -/

section Receive

variable (reply : Reply) (k : Intake ω)

@[simp]
theorem receive_store : (k.receive reply).store = k.store := by
  unfold receive; split <;> rfl

@[simp]
theorem receive_resolver : (k.receive reply).resolver = k.resolver := by
  unfold receive; split <;> rfl

@[simp]
theorem receive_caches : (k.receive reply).caches = k.caches := by
  unfold receive; split <;> rfl

@[simp]
theorem receive_metrics : (k.receive reply).metrics = k.metrics := by
  unfold receive; split <;> rfl

@[simp]
theorem receive_outside : (k.receive reply).outside = k.outside := by
  unfold receive; split <;> rfl

@[simp]
theorem receive_clock : (k.receive reply).clock = k.clock.pass reply.took := by
  unfold receive; split <;> rfl

@[simp]
theorem receive_events :
    (k.receive reply).events = k.events ++ reply.requests.map Event.requested := by
  unfold receive; split <;> rfl

@[simp]
theorem receive_stopping : (k.receive reply).stopping = (k.stopping || reply.stops) := by
  cases h : reply.stops
  · simp [receive, h, emit, say]
  · simp [receive, h, trigger, triggerFlag, say]

end Receive

section Fetch

variable (client : Client ω) (name : String) (k : Intake ω)

/-- The reply of a client that is asked now. -/
def replyOf : Reply := (client.source.ask name k.clock.now k.outside).1

@[simp]
theorem fetch_store : (k.fetch client name).2.store = k.store := by
  simp [fetch, emit]

@[simp]
theorem fetch_resolver : (k.fetch client name).2.resolver = k.resolver := by
  simp [fetch, emit]

@[simp]
theorem fetch_caches : (k.fetch client name).2.caches = k.caches := by
  simp [fetch, emit]

@[simp]
theorem fetch_counts : (k.fetch client name).2.metrics.counts = k.metrics.counts := by
  simp [fetch, emit, Metrics.record]

@[simp]
theorem fetch_now : (k.fetch client name).2.clock.now = k.clock.now := by
  simp [fetch, emit, Clock.read, Clock.pass]

@[simp]
theorem fetch_outside :
    (k.fetch client name).2.outside = (client.source.ask name k.clock.now k.outside).2 := by
  simp [fetch, emit, Clock.read]

@[simp]
theorem fetch_stopping :
    (k.fetch client name).2.stopping = (k.stopping || (k.replyOf client name).stops) := by
  simp [fetch, emit, replyOf, Clock.read]

@[simp]
theorem fetch_events :
    (k.fetch client name).2.events =
      k.events ++ Event.asked client.source.profile client.source.id name ::
        (k.replyOf client name).requests.map Event.requested := by
  simp [fetch, emit, replyOf, Clock.read]

/-- A fetch is timed once, by the timer of its source. -/
theorem fetch_metrics :
    ∃ millis, (k.fetch client name).2.metrics =
      k.metrics.record (timerName client.source.id) millis := by
  simp only [fetch, emit, receive_metrics]
  exact ⟨_, rfl⟩

/-- What was said before a fetch does not matter to it. -/
theorem fetch_say (records : List LogRecord) :
    ((k.say records).fetch client name).1 = (k.fetch client name).1 ∧
      ((k.say records).fetch client name).2.quiet = (k.fetch client name).2.quiet := by
  refine ⟨rfl, ?_⟩
  simp [quiet, fetch, emit, say]

end Fetch

end Intake

end MetricIntake
