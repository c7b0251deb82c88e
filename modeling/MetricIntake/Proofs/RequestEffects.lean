import MetricIntake.Proofs.CacheWrites
import MetricIntake.Proofs.Defaults
import MetricIntake.Proofs.Judgements
import MetricIntake.Proofs.Raising
import MetricIntake.Proofs.Replay
import MetricIntake.Proofs.UnreadableEntries

/-!
# Effects of one request

A request without a result leaves the store as it is, whether it raises or has no data.  One with a
result changes at most the entry under its own key, and it does so just if its source was asked for
the sample now, no default value stands in for it, and it may be kept: `request_effects`.  What was
under the key before need not have been written by a cache.
-/

namespace MetricIntake

variable {ω : Type}

namespace Visit

/-- The sample that the source has for the request in this very turn, if no default value stands in
for it. -/
def fetched? (v : Visit ω) : Option Sample :=
  if v.asks then
    match v.reply.outcome with
    | .ok (some sample) =>
      if sample.isTimedOut && v.request.defaultValue.isSome then none else some sample
    | _ => none
  else none

/-- The request counts as one that ended so, and as nothing else. -/
def CountsAs (v : Visit ω) (p : Outcome) : Prop :=
  ∀ o, v.after.metrics.counts.get o =
    v.before.metrics.counts.get o + if o = p then 1 else 0

/-- How a request without a result ends: it is counted once as one without data or as a failure, or
a shutdown was requested and nothing is done. -/
inductive Ends (v : Visit ω) : Prop
  | counted (o : Outcome) (how : o = .noData ∨ o = .failed) (counts : v.CountsAs o)
  | passedOver (stopping : v.before.stopping = true) (same : v.after.quiet = v.before.quiet)

/-- What a request with a result does. -/
structure Delivers (v : Visit ω) : Prop where
  counts : v.CountsAs .succeeded
  elsewhere : ∀ key, key ≠ v.storeKey → v.after.store.get? key = v.before.store.get? key
  /-- The entry under its key is another one just if the sample is new and may be kept. -/
  changes : v.after.store.get? v.storeKey ≠ v.before.store.get? v.storeKey ↔
    v.fetched?.isSome ∧ 0 < v.request.cacheMillis
  entry : ∀ sample, v.fetched? = some sample → 0 < v.request.cacheMillis →
    ∃ e, v.after.store = v.before.store.insert v.storeKey e ∧
      Sample.ofBytes v.cache.depth e.bytes = .ok (some sample) ∧ e.ttl = v.request.cacheMillis
  /-- With the same entry under its key it is the same store. -/
  same : v.after.store.get? v.storeKey = v.before.store.get? v.storeKey →
    v.after.store = v.before.store

/-! ### New samples -/

/-- Of what a source answers, a sample that is accepted is the one that the source has, and may be
kept if the request may keep any; or a default value stands in, and it is not to be kept. -/
theorem settle_fetched_of_accepted {r : Request} {now : UtcTime} {sample? : Option Sample}
    {resolution : Resolution} {reading : Reading} (h : r.settle now sample? = some resolution)
    (hj : resolution.sample.judge = .accepted reading) :
    (∃ sample, sample? = some sample ∧ (sample.isTimedOut && r.defaultValue.isSome) = false ∧
      resolution = { sample, shouldCache := 0 < r.cacheMillis, isDefault := false }) ∨
    (∀ sample, sample? = some sample →
      (sample.isTimedOut && r.defaultValue.isSome) = true) ∧ resolution.shouldCache = false := by
  unfold Request.settle at h
  split at h
  · cases h
  · obtain rfl := Option.some.inj h
    exact .inr ⟨fun _ h => absurd h.symm (Option.some_ne_none _), rfl⟩
  · rename_i sample x hdefault
    split at h
    · rename_i hout
      obtain rfl := Option.some.inj h
      refine .inr ⟨?_, rfl⟩
      rintro _ ⟨⟩
      rw [hout, hdefault]
      rfl
    · rename_i hout
      obtain rfl := Option.some.inj h
      refine .inl ⟨sample, rfl, ?_, rfl⟩
      rw [Bool.eq_false_iff.2 hout, Bool.false_and]
  · rename_i sample hdefault
    obtain rfl := Option.some.inj h
    -- a value that is late is no number, and there is nothing to stand in for it
    have hout : sample.isTimedOut = false :=
      decide_eq_false (Reading.takes_of_accepted hj).inTime
    refine .inl ⟨sample, rfl, ?_, ?_⟩
    · rw [hout, Bool.false_and]
    · rw [hout, Bool.not_false, Bool.and_true]

variable {v : Visit ω}

theorem fetched?_of_not_asks (h : v.asks = false) : v.fetched? = none := by
  rw [fetched?, h, if_neg Bool.false_ne_true]

/-- A new sample was looked for in the cache first. -/
theorem asks_of_fetched? {sample : Sample} (h : v.fetched? = some sample) : v.asks = true := by
  by_contra hasks
  rw [fetched?_of_not_asks (Bool.not_eq_true _ ▸ hasks)] at h
  cases h

/-- **What is kept** of a request with a result is a new sample. -/
theorem keeps_iff_fetched? {resolution : Resolution} {reading : Reading}
    (h : v.fate = .loaded resolution reading) :
    (∀ sample, v.fetched? = some sample → resolution.sample = sample) ∧
      (v.keeps resolution = true ↔ v.fetched?.isSome ∧ 0 < v.request.cacheMillis) := by
  obtain ⟨hof, hfrom⟩ := fate_eq_loaded h
  obtain ⟨-, hjudge, -⟩ := fateOf_eq_loaded hof
  rcases hfrom with ⟨hcached, hcache⟩ | ⟨hasks, sample?, hreply, hsettle⟩
  · -- a cached sample is not new, and it is not kept again
    have hasks : v.asks = false := by rw [asks, hcached]
    rw [keeps_eq_true_iff, fetched?_of_not_asks hasks, hcache]
    simp
  · rw [keeps_eq_true_iff, fetched?, hasks, if_pos rfl, hreply]
    rcases settle_fetched_of_accepted hsettle hjudge with
      ⟨sample, rfl, hstays, rfl⟩ | ⟨hstands, hcache⟩
    · simp [hstays]
    · rw [hcache]
      cases sample? with
      | none => simp
      | some sample => simp [hstands sample rfl]

/-- **A new entry is another one**: had it been there before, the cache would have found it. -/
theorem get?_ne_of_asks (hread : v.before.store.readFailure = none) (hasks : v.asks = true)
    {sample : Sample} {e : Entry}
    (he : Sample.ofBytes v.cache.depth e.bytes = .ok (some sample)) :
    v.before.store.get? v.storeKey ≠ some e := by
  intro hget
  obtain ⟨hcached, -⟩ := asks_eq_true_iff.1 hasks
  have hlook : v.cache.look v.before.store v.request.cacheKey = .ok (.found sample) :=
    Cache.look_eq_found_iff.2 ⟨hread, e, hget, Sample.ofBytes_eq_some_iff.1 he⟩
  cases hcached.symm.trans (cached_eq_some_iff.2 hlook)

/-! ### Requests by their results -/

/-- Nothing is done for a request that is skipped. -/
theorem after_quiet_of_skipped (h : v.fate = .skipped) : v.after.quiet = v.before.quiet := by
  obtain ⟨-, hstopping⟩ := fate_eq_skipped_iff.1 h
  have hasked : v.asked = v.before := by
    have hasks : ¬ v.asks = true := fun hasks => by
      rw [(asks_eq_true_iff.1 hasks).2] at hstopping
      cases hstopping
    rw [asked, if_neg hasks]
  rw [v.processRequest_eq.2, h, hasked, storeOf_of_entryOf_eq_none rfl]
  rfl

/-- A request without a result leaves the store, and ends in one of three ways. -/
theorem ends_of_answer (h : v.answer = .ok none) : v.after.store = v.before.store ∧ v.Ends := by
  rw [v.answer_eq] at h
  constructor
  · rw [after_store]
    refine storeOf_of_entryOf_eq_none ?_
    cases hfate : v.fate with
    | loaded resolution reading =>
      rw [hfate] at h
      cases h
    | _ => rfl
  · cases hfate : v.fate with
    | raised f =>
      rw [hfate] at h
      cases h
    | skipped =>
      exact .passedOver (fate_eq_skipped_iff.1 hfate).2 (after_quiet_of_skipped hfate)
    | failed e => exact .counted .failed (.inr rfl) (after_counts_of_outcome? (by rw [hfate]; rfl))
    | empty => exact .counted .noData (.inl rfl) (after_counts_of_outcome? (by rw [hfate]; rfl))
    | rejected resolution why =>
      exact .counted .noData (.inl rfl) (after_counts_of_outcome? (by rw [hfate]; rfl))
    | loaded resolution reading =>
      rw [hfate] at h
      cases h

/-- A request with a result keeps a new sample, and nothing else. -/
theorem delivers_of_answer (hstore : v.before.store.Working) {reading : Reading}
    (h : v.answer = .ok (some reading)) : v.Delivers := by
  have hcounts := outcome?_eq_succeeded_iff.2 ⟨reading, h⟩
  obtain ⟨resolution, reading', hfate⟩ : ∃ resolution reading',
      v.fate = .loaded resolution reading' := by
    rw [v.answer_eq] at h
    cases hfate : v.fate with
    | loaded resolution reading' => exact ⟨resolution, reading', rfl⟩
    | _ =>
      rw [hfate] at h
      cases h
  obtain ⟨hsample, hkeeps⟩ := keeps_iff_fetched? hfate
  have hafter := v.after_store
  rw [hfate, storeOf, entryOf, hstore.writeFailure] at hafter
  by_cases hk : v.keeps resolution = true
  · obtain ⟨hsome, hpos⟩ := hkeeps.1 hk
    obtain ⟨sample, hfetched⟩ := Option.isSome_iff_exists.1 hsome
    obtain rfl := hsample sample hfetched
    rw [if_pos ⟨hk, rfl⟩] at hafter
    have hwhole := (fateOf_eq_loaded (fate_eq_loaded hfate).1).2.2 hk
    have hread := Sample.ofBytes_dumpBytes hwhole v.cache.depth
    have hchanges : v.after.store.get? v.storeKey ≠ v.before.store.get? v.storeKey := by
      rw [hafter, Store.get?_insert, if_pos rfl]
      exact (get?_ne_of_asks hstore.readFailure (asks_of_fetched? hfetched) hread).symm
    refine ⟨after_counts_of_outcome? hcounts, fun key hkey => v.after_get?_of_ne hkey,
      iff_of_true hchanges ⟨hsome, hpos⟩, ?_, fun hsame => absurd hsame hchanges⟩
    rintro other hother -
    obtain rfl := Option.some.inj (hfetched.symm.trans hother)
    exact ⟨_, hafter, hread, rfl⟩
  · rw [if_neg fun h => hk h.1] at hafter
    have hnot := fun hboth => hk (hkeeps.2 hboth)
    refine ⟨after_counts_of_outcome? hcounts, fun key hkey => v.after_get?_of_ne hkey,
      iff_of_false (fun hne => hne (by rw [hafter])) hnot, ?_, fun _ => hafter⟩
    intro sample hfetched hpos
    exact absurd ⟨Option.isSome_iff_exists.2 ⟨sample, hfetched⟩, hpos⟩ hnot

end Visit

/-- **What a request does**, whatever it finds in a store that works.  If it raises or has no
result, the store is exactly what it was; without a result it counts once as one without data or as
a failure, or nothing is done since a shutdown was requested.  With a result it counts once as
succeeded, and the store is another one at most under its own key: just if the source was asked for
the sample now, no default value stands in for it, and it may be kept, there is a new entry, in
which the sample can be read, for as long as the request says. -/
theorem request_effects {v : Visit ω} (hstore : v.before.store.Working) :
    (∀ f, v.answer = .error f → v.after.store = v.before.store) ∧
      (v.answer = .ok none → v.after.store = v.before.store ∧ v.Ends) ∧
      ∀ reading, v.answer = .ok (some reading) → v.Delivers :=
  ⟨fun _ h => (Visit.after_of_error h).1, Visit.ends_of_answer,
    fun _ h => Visit.delivers_of_answer hstore h⟩

/-- A request that finds something else than a sample under its key. -/
def Visit.displacing : Visit (String → Nat) :=
  { Visit.first ⟨"s1", "m", none, 1000⟩
      (.ok (some { name := "m", value := "1", updatedAt := "2026-01-20T11:15:00+01:00" })) with
    before :=
      { Intake.unused with
        store :=
          Store.empty.insert "sampleduct:s1:s1:m" { bytes := Utf8.encode ['{', '}'], ttl := 1 } } }

theorem request_effects_displacing :
    Visit.displacing.before.store.Working ∧ Visit.displacing.Delivers ∧
      Visit.displacing.after.store.get? Visit.displacing.storeKey ≠
        Visit.displacing.before.store.get? Visit.displacing.storeKey := by
  have hstore : Visit.displacing.before.store.Working := ⟨rfl, rfl⟩
  have hcounted : Visit.displacing.fate.outcome? = some .succeeded := by decide +kernel
  obtain ⟨reading, hanswer⟩ := Visit.outcome?_eq_succeeded_iff.1 hcounted
  have hdelivers := (request_effects hstore).2.2 reading hanswer
  exact ⟨hstore, hdelivers, hdelivers.changes.2 (by decide +kernel)⟩

end MetricIntake
