import MetricIntake.Proofs.Answers
import MetricIntake.Proofs.Connections
import MetricIntake.Proofs.Durations
import MetricIntake.Proofs.Summaries
import MetricIntake.Proofs.View

/-!
# Timers

At every point of a run the timer of a source has counted the calls to it, whatever came of them,
and no other timer is in use: `timers_account`.  What the timers of an intake are is told from the
visits behind it: the statistics of a timer are those of the durations of the calls to its source
(`Trail.latency_eq`), and there is one call for each of them (`Trail.calls_eq`).
-/

namespace MetricIntake

variable {ω : Type}

/-! ### One visit -/

namespace Visit

variable (v : Visit ω)

/-- What the clock reads as the source is asked. -/
def started : Double := v.before.clock.reading

/-- What the clock reads as its answer is there. -/
def stopped : Double := (v.before.clock.read.2.pass v.reply.took).reading

/-- How many milliseconds the answer took. -/
def millis : Double := Clock.elapsedMillis v.started v.stopped

/-- The clock reads finite numbers as the source is asked, and does not go back. -/
structure Steady : Prop where
  started : v.started.isFinite = true
  stopped : v.stopped.isFinite = true
  forward : v.stopped.lt v.started = false

variable {v}

theorem Steady.isUnsigned_millis (h : v.Steady) : v.millis.IsUnsigned := by
  refine isUnsigned_elapsedMillis h.started h.stopped h.forward fun hzero => ?_
  -- what is added to the first reading does not make a negative zero of anything else
  have hstopped : (v.started.add v.before.clock.tick).add v.reply.took = Double.zero.neg := hzero
  exact (Double.eq_of_add_eq_neg_zero (Double.eq_of_add_eq_neg_zero hstopped).1).1

theorem asked_metrics (h : v.asks = true) :
    v.asked.metrics = v.before.metrics.record v.timer v.millis := by
  rw [asked, if_pos h]
  simp only [Intake.fetch, Intake.emit, Intake.receive_metrics, Intake.receive_clock]
  rfl

/-- A call is timed by the timer of its source, and by no other. -/
theorem after_latency (v : Visit ω) (id : String) :
    v.after.metrics.latency (Intake.timerName id) =
      if v.asks && v.client.source.id = id then
        (v.before.metrics.latency (Intake.timerName id)).record v.millis
      else v.before.metrics.latency (Intake.timerName id) := by
  cases hasks : v.asks with
  | true =>
    have htimers : v.after.metrics.latency (Intake.timerName id) =
        v.asked.metrics.latency (Intake.timerName id) := by
      rw [after_metrics, Fate.tally]
      split <;> rfl
    rw [htimers, asked_metrics hasks, Metrics.latency_record, Bool.true_and]
    by_cases hid : v.client.source.id = id
    · rw [if_pos (decide_eq_true hid), timer, hid, if_pos rfl]
    · rw [if_neg fun h : Intake.timerName id = v.timer => hid (timerName_inj h).symm,
        if_neg (mt of_decide_eq_true hid)]
  | false =>
    rw [Bool.false_and, if_neg Bool.false_ne_true, Metrics.latency, after_timers_of_not_asks hasks]
    rfl

end Visit

/-- How many milliseconds each call to a source took, in their order. -/
def durations (id : String) (vs : List (Visit ω)) : List Double :=
  (vs.filter fun v => v.asks && v.client.source.id = id).map (·.millis)

theorem durations_cons (id : String) (v : Visit ω) (vs : List (Visit ω)) :
    durations id (v :: vs) =
      if v.asks && v.client.source.id = id then v.millis :: durations id vs
      else durations id vs := by
  rw [durations, List.filter_cons]
  split <;> rfl

theorem mem_durations_iff {id : String} {vs : List (Visit ω)} {d : Double} :
    d ∈ durations id vs ↔ ∃ v ∈ vs, v.asks = true ∧ v.client.source.id = id ∧ v.millis = d := by
  simp [durations, and_assoc]

theorem durations_ne_nil_iff {id : String} {vs : List (Visit ω)} :
    durations id vs ≠ [] ↔ ∃ v ∈ vs, v.asks = true ∧ v.client.source.id = id := by
  simp [durations]

/-! ### Visits one after another -/

section Trails

variable {s : Surroundings ω} {k k' m : Intake ω} {vs : List (Visit ω)}

/-- No source is asked between visits. -/
theorem Step.events_eq (h : Step s k k') :
    ∃ more, k'.events = k.events ++ more ∧ ∀ e ∈ more, e.isBinding = true := by
  have hsame : ∃ more, k.events = k.events ++ more ∧ ∀ e ∈ more, e.isBinding = true :=
    ⟨[], (List.append_nil _).symm, fun _ he => absurd he List.not_mem_nil⟩
  cases h with
  | say records => exact hsame
  | resolve id => exact k.resolve_events s id
  | connect hclient => exact k.cacheOf_events s _
  | miss => exact hsame
  | reset id? => exact hsame
  | trigger => exact hsame
  | elapse i => exact hsame

theorem Event.isCallTo_of_isBinding {e : Event} (h : e.isBinding = true) (id : String) :
    e.isCallTo id = false := by
  cases e with
  | asked profile other name => cases h
  | _ => rfl

/-- **A timer has the durations of the calls to its source**, after those that it had. -/
theorem Trail.latency_eq (h : Trail s k vs m) (id : String) :
    m.metrics.latency (Intake.timerName id) =
      (durations id vs).foldl LatencyStats.record
        (k.metrics.latency (Intake.timerName id)) := by
  induction h with
  | nil k => rfl
  | step hstep _ ih => rw [ih, Metrics.latency, hstep.timers_eq, Metrics.latency]
  | @visit v m vs _ _ ih =>
    rw [ih, v.after_latency, durations_cons]
    split <;> rfl

/-- **There is a call to a source for each of these durations.** -/
theorem Trail.calls_eq (h : Trail s k vs m) :
    ∃ more, m.events = k.events ++ more ∧
      ∀ id, more.countP (·.isCallTo id) = (durations id vs).length := by
  induction h with
  | nil k => exact ⟨[], (List.append_nil _).symm, fun _ => rfl⟩
  | step hstep _ ih =>
    obtain ⟨first, hfirst, hbinding⟩ := hstep.events_eq
    obtain ⟨more, hmore, hcount⟩ := ih
    refine ⟨first ++ more, by rw [hmore, hfirst, List.append_assoc], fun id => ?_⟩
    rw [List.countP_append, hcount, List.countP_eq_zero.2, Nat.zero_add]
    intro e he
    rw [Event.isCallTo_of_isBinding (hbinding e he) id]
    exact Bool.false_ne_true
  | @visit v m vs _ _ ih =>
    obtain ⟨more, hmore, hcount⟩ := ih
    rw [v.after_events, List.append_assoc] at hmore
    refine ⟨_, hmore, fun id => ?_⟩
    rw [List.countP_append, hcount, durations_cons]
    cases v.asks with
    | false => exact Nat.zero_add _
    | true =>
      -- of what a call does only the call itself is one
      have hrequested : (v.reply.requests.map Event.requested).countP (·.isCallTo id) = 0 := by
        rw [List.countP_eq_zero]
        rintro _ he
        obtain ⟨request, -, rfl⟩ := List.mem_map.1 he
        exact Bool.false_ne_true
      rw [if_pos rfl, List.countP_cons, hrequested, Bool.true_and]
      by_cases hid : v.client.source.id = id
      · simp [Event.isCallTo, hid, Nat.add_comm]
      · simp [Event.isCallTo, hid]

end Trails

/-! ### Points of a run -/

/-- What the timers of a later intake are, with some visits in between. -/
structure Intake.TimedBy (k : Intake ω) (past : List (Visit ω)) (m : Intake ω) : Prop where
  /-- Each timer counts the calls to its source since then. -/
  calls : ∃ more, m.events = k.events ++ more ∧
    ∀ id, (m.metrics.latency (timerName id)).count = more.countP (·.isCallTo id)
  stats : ∀ id, m.metrics.latency (timerName id) = .ofDurations (durations id past)
  /-- No other timer is there, and none twice. -/
  used : ∀ timer, timer ∈ m.metrics.used ↔
    ∃ id, timer = timerName id ∧ 0 < (m.metrics.latency timer).count
  once : m.metrics.used.Nodup
  spans : (∀ v ∈ past, v.asks = true → v.Steady) →
    ∀ id, 0 < (m.metrics.latency (timerName id)).count →
      (m.metrics.latency (timerName id)).Spans (durations id past)

theorem Trail.timedBy {s : Surroundings ω} {k m : Intake ω} {past : List (Visit ω)}
    (h : Trail s k past m) (hk : k.metrics.timers = []) : k.TimedBy past m := by
  have hstats : ∀ id, m.metrics.latency (Intake.timerName id) =
      .ofDurations (durations id past) := by
    intro id
    rw [h.latency_eq, Metrics.latency, hk]
    rfl
  have hcount : ∀ id, (m.metrics.latency (Intake.timerName id)).count =
      (durations id past).length := by
    intro id
    rw [hstats, LatencyStats.count_ofDurations]
  have hused : k.metrics.used = [] := congrArg (List.map Prod.fst) hk
  refine ⟨?_, hstats, ?_, h.nodup_used (hused ▸ List.nodup_nil), ?_⟩
  · obtain ⟨more, hevents, hcalls⟩ := h.calls_eq
    exact ⟨more, hevents, fun id => (hcount id).trans (hcalls id).symm⟩
  · intro timer
    rw [← Metrics.mem_timerNames, h.mem_timerNames, Metrics.mem_timerNames, hused]
    constructor
    · rintro (hbefore | ⟨v, hv, hasks, rfl⟩)
      · cases hbefore
      · refine ⟨v.client.source.id, rfl, ?_⟩
        rw [Visit.timer, hcount]
        exact List.length_pos_iff.2 (durations_ne_nil_iff.2 ⟨v, hv, hasks, rfl⟩)
    · rintro ⟨id, rfl, hpos⟩
      rw [hcount] at hpos
      obtain ⟨v, hv, hasks, rfl⟩ := durations_ne_nil_iff.1 (List.ne_nil_of_length_pos hpos)
      exact .inr ⟨v, hv, hasks, rfl⟩
  · intro hsteady id hpos
    rw [hcount] at hpos
    rw [hstats]
    refine LatencyStats.spans_ofDurations (List.ne_nil_of_length_pos hpos) fun d hd => ?_
    obtain ⟨v, hv, hasks, -, rfl⟩ := mem_durations_iff.1 hd
    exact (hsteady v hv hasks).isUnsigned_millis

/-- A source that has no client uses no timer. -/
theorem Turn.after_timers_of_not_found {s : Surroundings ω} {t : Turn ω} (h : t.found s = false) :
    (t.after s).metrics.timers = t.before.metrics.timers := by
  unfold found at h
  cases hc : t.client? s with
  | error f => rw [(Turn.eq_of_error hc).2.2, Intake.resolve_metrics]
  | ok client? =>
    cases client? with
    | none =>
      obtain ⟨-, -, records, hafter⟩ := Turn.eq_of_none hc
      rw [hafter]
      show (t.before.resolve s t.id).2.metrics.timers = _
      rw [Intake.resolve_metrics]
    | some client =>
      rw [hc] at h
      cases h

/-- **Timers account for the calls to sources.**  At every point of every run that begins without
timers, the timer of each source has counted the calls to it, whatever came of them, and its
statistics are those of their durations; no other timer is in use.  Requests for what is cached, and
those after a shutdown was requested, add nothing, and neither do sources without a client.  If the
clock reads finite numbers and does not go back, the statistics of a timer in use have the smallest
and the largest of its durations, and none of these is negative. -/
theorem timers_account {s : Surroundings ω} {k : Intake ω} (hk : k.metrics.timers = [])
    (commands : List (Command ω)) :
    (∀ m ∈ points s commands k, ∃ past, past <+: visits s commands k ∧ Trail s k past m ∧
      k.TimedBy past m) ∧
      (∀ v ∈ visits s commands k, v.cached ≠ .ok none ∨ v.before.stopping = true →
        v.after.metrics.timers = v.before.metrics.timers) ∧
      ∀ t ∈ turnsIn s commands k, t.found s = false →
        (t.after s).metrics.timers = t.before.metrics.timers := by
  refine ⟨fun m hm => ?_, fun v _ h => ?_, fun t _ h => Turn.after_timers_of_not_found h⟩
  · obtain ⟨past, hbehind, hpast⟩ := past_of_mem_points hm
    exact ⟨past, hbehind, hpast, hpast.timedBy hk⟩
  · refine Visit.after_timers_of_not_asks (Bool.eq_false_iff.2 fun hasks => ?_)
    obtain ⟨hcached, hopen⟩ := Visit.asks_eq_true_iff.1 hasks
    rcases h with h | h
    · exact h hcached
    · rw [hopen] at h
      cases h

/-- A run goes through its end. -/
theorem run_mem_points (s : Surroundings ω) (commands : List (Command ω)) (k : Intake ω) :
    k.run s commands ∈ points s commands k := by
  induction commands generalizing k with
  | nil => exact List.mem_singleton_self k
  | cons command rest ih =>
    have hrest := ih (k.perform s command)
    cases command with
    | process batch => exact List.mem_append_right _ hrest
    | _ => exact List.mem_cons_of_mem _ hrest

/-- Sources with one outcome each, of which the first takes ever longer, and one that is missing. -/
def sluggish : Surroundings (String → Nat) :=
  .scripted fun id =>
    if id = "slow" then
      some fun asked _ =>
        { Reply.plain (.ok (some
            { name := "m", value := "1", updatedAt := "2026-01-20T10:15:00Z" })) with
          took := .ofWhole asked }
    else if id = "empty" then some fun _ _ => .plain (.ok none)
    else if id = "down" then
      some fun _ _ => .plain (.error (.source { kind := .other, source := id, message := "down" }))
    else if id = "broken" then
      some fun _ _ => .plain (.error (.fault (.foreign "RuntimeError" "broken")))
    else none

/-- Requests to each of them, one of which finds what another left, and one after a shutdown. -/
def errands : List (Command (String → Nat)) :=
  let ask (source name : String) (cacheMillis : Nat) : Request := ⟨source, name, none, cacheMillis⟩
  [.process [ask "slow" "m" 1000, ask "slow" "n" 0, ask "slow" "m" 0],
    .process [ask "broken" "m" 0, ask "slow" "o" 0, ask "empty" "m" 0, ask "missing" "m" 0,
      ask "down" "m" 0],
    .reset none, .trigger, .process [ask "slow" "o" 0]]

theorem timers_account_of_errands :
    Intake.unused.metrics.timers = [] ∧
      (visits sluggish errands .unused).map (·.asks) =
        [true, true, false, true, true, true, true, false] ∧
      (∀ v ∈ visits sluggish errands .unused, v.Steady) ∧
      ∃ past, past <+: visits sluggish errands .unused ∧
        ((Intake.unused.run sluggish errands).metrics.latency "get-sample.slow").Spans
          (durations "slow" past) ∧
        (Intake.unused.run sluggish errands).metrics.used =
          ["get-sample.slow", "get-sample.broken", "get-sample.empty", "get-sample.down"] := by
  have hsteady : ∀ v ∈ visits sluggish errands .unused, v.Steady := by
    have hall : ∀ v ∈ visits sluggish errands .unused, v.started.isFinite = true ∧
        v.stopped.isFinite = true ∧ v.stopped.lt v.started = false := by
      decide +kernel
    exact fun v hv => ⟨(hall v hv).1, (hall v hv).2.1, (hall v hv).2.2⟩
  obtain ⟨past, hbehind, -, htimed⟩ := (timers_account (s := sluggish) (k := .unused) rfl errands).1
    _ (run_mem_points sluggish errands .unused)
  refine ⟨rfl, by decide +kernel, hsteady, past, hbehind, ?_, by decide +kernel⟩
  exact htimed.spans (fun v hv _ => hsteady v (hbehind.subset hv)) "slow" (by decide +kernel)

end MetricIntake
