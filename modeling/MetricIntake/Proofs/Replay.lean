import MetricIntake.Proofs.Answers
import MetricIntake.Proofs.Chain
import MetricIntake.Proofs.KeptSamples
import MetricIntake.Proofs.Sharing

/-!
# Replays

A request that writes its sample is the last one that asks for it: in a run in which nothing expires
every later request for the same metric of the same source is a hit and has the same reading,
`replay_faithful`.  The invariant along the run is that the entry is still there
(`Chained.keeps_entry`).  It holds because a request that could write over the entry has the same
key, and so it finds the entry, reads the sample back from it, and does not write.
-/

namespace MetricIntake

variable {ω : Type}

/-! ### Entries that keep a reading -/

/-- The entry keeps a sample that has a reading. -/
structure Entry.Keeps (e : Entry) (sample : Sample) (reading : Reading) : Prop where
  bytes_eq : e.bytes = sample.dumpBytes
  whole : sample.halves? = none
  accepted : sample.judge = .accepted reading

/-- A sample that may be kept has not the default value. -/
theorem settle_isDefault {r : Request} {now : UtcTime} {sample? : Option Sample}
    {resolution : Resolution} (h : r.settle now sample? = some resolution)
    (hc : resolution.shouldCache = true) : resolution.isDefault = false := by
  unfold Request.settle at h
  split at h
  · cases h
  · obtain rfl := Option.some.inj h
    exact absurd hc Bool.false_ne_true
  · split at h
    · obtain rfl := Option.some.inj h
      exact absurd hc Bool.false_ne_true
    · obtain rfl := Option.some.inj h
      rfl
  · obtain rfl := Option.some.inj h
    rfl

/-- An accepted sample has no message. -/
theorem messages_of_accepted {sample : Sample} {reading : Reading}
    (h : sample.judge = .accepted reading) : reading.messages = [] := by
  unfold Sample.judge at h
  split at h
  · cases h
  · cases h
  · split at h
    · cases h
    · obtain rfl := Judgement.accepted.inj h
      rfl

theorem isEmpty_dumpBytes (sample : Sample) : sample.dumpBytes.isEmpty = false := rfl

namespace Visit

variable {v : Visit ω} {e : Entry} {sample : Sample} {reading : Reading}

/-- A request that writes keeps the sample of its own reading. -/
theorem keeps_of_written? (h : v.written? = some e) :
    ∃ sample reading, e.Keeps sample reading ∧ v.answer = .ok (some reading) := by
  obtain ⟨resolution, reading, sample?, hfate, hjudge, hhalves, hcache, rfl, -, -, hsettle⟩ :=
    loaded_of_written? h
  refine ⟨resolution.sample, reading, ⟨rfl, hhalves, hjudge⟩, ?_⟩
  rw [v.answer_eq, hfate, Fate.answer, Intake.markDefault, settle_isDefault hsettle hcache]

/-- What a request wrote is in the store. -/
theorem after_get?_of_written? (h : v.written? = some e) :
    v.after.store.get? v.storeKey = some e := by
  rw [v.after_store, storeOf, show v.entryOf v.fate = some e from h]
  dsimp only
  rw [Store.get?_insert, if_pos rfl]

/-- A sample is read back from the entry that keeps it. -/
theorem cached_of_keeps (hread : v.before.store.readFailure = none)
    (hget : v.before.store.get? v.storeKey = some e) (he : e.Keeps sample reading) :
    v.cached = .ok (some sample) := by
  rw [storeKey] at hget
  rw [cached, Cache.look, hread, hget]
  dsimp only
  rw [he.bytes_eq, isEmpty_dumpBytes, if_neg Bool.false_ne_true, Sample.ofBytes_dumpBytes he.whole]
  rfl

end Visit

/-! ### Entries that stay -/

/-- **An entry that keeps a reading stays**: no request writes over it. -/
theorem Chained.keeps_entry {x y : Store} {vs : List (Visit ω)} (h : Chained Intake.store x vs y)
    {key : String} {e : Entry} {sample : Sample} {reading : Reading} (he : e.Keeps sample reading)
    (hread : x.readFailure = none) (hget : x.get? key = some e) :
    ∀ w ∈ vs, w.before.store.readFailure = none ∧ w.before.store.get? key = some e := by
  induction h with
  | nil x => exact fun w hw => absurd hw List.not_mem_nil
  | @cons x y v vs hx _ ih =>
    subst hx
    have hread' : v.after.store.readFailure = none := v.after_failures.1.trans hread
    have hget' : v.after.store.get? key = some e := by
      by_cases hkey : key = v.storeKey
      · -- the request finds the entry, so that it has nothing to write
        have hcached := Visit.cached_of_keeps hread (hkey ▸ hget) he
        have hasks := (Visit.fate_of_hit hcached he.accepted).1
        rw [Visit.after_store_of_not_asks hasks]
        exact hget
      · rw [v.after_get?_of_ne hkey]
        exact hget
    rintro w (_ | ⟨_, hw⟩)
    · exact ⟨hread, hget⟩
    · exact ih hread' hget' w hw

/-! ### Replays -/

/-- A request has the reading that an earlier one had, and its source has nothing to do with it. -/
structure Visit.Replays (w v : Visit ω) : Prop where
  answer : ∃ reading, v.answer = .ok (some reading) ∧ w.answer = .ok (some reading) ∧
    reading.messages = []
  asks : w.asks = false
  /-- Nothing is done that can be seen from outside. -/
  events : w.after.events = w.before.events
  store : w.after.store = w.before.store
  metrics : w.after.metrics = w.before.metrics.add .succeeded

/-- A request that finds what an earlier one wrote is a replay of it. -/
theorem Visit.replays_of_keeps {v w : Visit ω} {e : Entry} {sample : Sample} {reading : Reading}
    (he : e.Keeps sample reading) (hanswer : v.answer = .ok (some reading))
    (hread : w.before.store.readFailure = none)
    (hget : w.before.store.get? w.storeKey = some e) : w.Replays v := by
  have hcached := Visit.cached_of_keeps hread hget he
  obtain ⟨hasks, hfate⟩ := Visit.fate_of_hit hcached he.accepted
  constructor
  · refine ⟨reading, hanswer, ?_, messages_of_accepted he.accepted⟩
    rw [w.answer_eq, hfate]
    rfl
  · exact hasks
  · exact Visit.after_events_of_not_asks hasks
  · exact Visit.after_store_of_not_asks hasks
  · exact Visit.after_metrics_of_hit hcached he.accepted

/-- **Replays are faithful**: in a run with a store that can be read and in which nothing expires,
and with clients that carry the ids that they were built for, every request for a metric of a source
for which an earlier request wrote its sample has the reading that that request had, with no message
and without a call to the source, counts as succeeded, and leaves the store as it is.  No request
writes under a key under which an earlier one wrote. -/
theorem replay_faithful {s : Surroundings ω} (hs : s.Carries) {k : Intake ω} (hk : k.Sound s)
    (hread : k.store.readFailure = none) {commands : List (Command ω)}
    (hspares : ∀ command ∈ commands, command.Spares k.store) {past rest : List (Visit ω)}
    {v : Visit ω} (h : visits s commands k = past ++ v :: rest) (hwrote : v.written?.isSome) :
    ∀ w ∈ rest,
      (w.request.source = v.request.source → w.request.name = v.request.name → w.Replays v) ∧
        (w.storeKey = v.storeKey → w.written? = none) := by
  obtain ⟨e, hwritten⟩ := Option.isSome_iff_exists.1 hwrote
  obtain ⟨sample, reading, he, hanswer⟩ := Visit.keeps_of_written? hwritten
  have hchain := chained_store_run (s := s) hspares
  rw [h] at hchain
  obtain ⟨hpast, hrest⟩ := hchain.split
  have hread' : v.after.store.readFailure = none :=
    v.after_failures.1.trans (hpast.failures.1.trans hread)
  have hstays := hrest.keeps_entry he hread' (Visit.after_get?_of_written? hwritten)
  intro w hw
  obtain ⟨hwread, hwget⟩ := hstays w hw
  have hreplays : w.storeKey = v.storeKey → w.Replays v := fun hkey =>
    Visit.replays_of_keeps he hanswer hwread (hkey ▸ hwget)
  refine ⟨?_, fun hkey => Visit.written?_of_not_asks (hreplays hkey).asks⟩
  intro hsource hname
  -- both requests have the key of the source and the metric
  obtain ⟨before, after, rfl⟩ := List.append_of_mem hw
  have h' : visits s commands k = (past ++ v :: before) ++ w :: after := by
    rw [h, List.append_assoc]
    rfl
  obtain ⟨hv, hvattached, -⟩ := trail_of_visits h
  obtain ⟨hw, hwattached, -⟩ := trail_of_visits h'
  apply hreplays
  rw [Visit.storeKey_eq (hw.sound hs hk) hwattached, Visit.storeKey_eq (hv.sound hs hk) hvattached,
    hsource, hname]

/-- A metric that is asked for once and then once more, after everything was forgotten and a
shutdown was requested. -/
def repeats : List (Command (String → Nat)) :=
  [.process [⟨"a", "m", none, 1000⟩], .reset none, .trigger, .process [⟨"a", "m", some .zero, 0⟩]]

theorem replay_of_repeats :
    ∃ v w, visits generous repeats .unused = [v, w] ∧ v.written?.isSome ∧
      w.before.stopping = true ∧ w.Replays v := by
  have hlength : (visits generous repeats .unused).length = 2 := by decide +kernel
  have hfirst : ∀ v ∈ (visits generous repeats .unused).head?, v.written?.isSome := by
    decide +kernel
  have hlast : ∀ w ∈ (visits generous repeats .unused).getLast?, w.before.stopping = true := by
    decide +kernel
  have hrequests : (visits generous repeats .unused).map (·.request) =
      [⟨"a", "m", none, 1000⟩, ⟨"a", "m", some .zero, 0⟩] := by
    decide +kernel
  obtain ⟨v, w, hvisits⟩ := List.length_eq_two.1 hlength
  rw [hvisits] at hfirst hlast hrequests
  obtain ⟨hv, hw⟩ : v.request = ⟨"a", "m", none, 1000⟩ ∧
      w.request = ⟨"a", "m", some .zero, 0⟩ := by
    simpa using hrequests
  have hspares : ∀ command ∈ repeats, command.Spares Intake.unused.store := by
    simp [repeats, Command.Spares]
  have hsplit : visits generous repeats .unused = [] ++ v :: [w] := hvisits
  obtain ⟨hreplays, -⟩ := replay_faithful generous_carries (Intake.Sound.fresh ..) rfl hspares
    hsplit (hfirst v rfl) w List.mem_cons_self
  refine ⟨v, w, hvisits, hfirst v rfl, hlast w rfl, hreplays ?_ ?_⟩
  · rw [hv, hw]
  · rw [hv, hw]

end MetricIntake
