import MetricIntake.Intake.Batch
import MetricIntake.Proofs.Fetch

/-!
# Visits

A `Visit` is one request in its turn, with the intake that it finds.  `Visit.fate` says what becomes
of it and `Visit.written?` what it leaves in the store.  `Visit.processRequest_eq` says that these
two and the answer of the source are all there is to it, records aside; what a request does to each
part of an intake follows, one lemma for each part.
-/

namespace MetricIntake

variable {ω : Type}

/-! ### Visits and fates -/

/-- One request in its turn: the client and the cache it goes to, and the intake that it finds. -/
structure Visit (ω : Type) where
  request : Request
  client : Client ω
  cache : Cache
  before : Intake ω

/-- What becomes of a request. -/
inductive Fate
  /-- It ends the work on its source. -/
  | raised (f : Fault)
  /-- The cache has nothing and a shutdown was requested. -/
  | skipped
  | failed (e : SourceError)
  /-- The source has no sample and the request no default value. -/
  | empty
  | rejected (resolution : Resolution) (why : Rejection)
  | loaded (resolution : Resolution) (reading : Reading)
deriving DecidableEq

namespace Fate

/-- How the request counts, if it does. -/
def outcome? : Fate → Option Outcome
  | raised _ => none
  | skipped => none
  | failed _ => some .failed
  | empty => some .noData
  | rejected _ _ => some .noData
  | loaded _ _ => some .succeeded

/-- What is returned for a request. -/
def answer (r : Request) : Fate → Except Failure (Option Reading)
  | raised f => .error (.fault f)
  | loaded resolution reading => .ok (some (Intake.markDefault r resolution reading))
  | _ => .ok none

/-- The metrics with the request counted. -/
def tally (fate : Fate) (m : Metrics) : Metrics :=
  match fate.outcome? with
  | some o => m.add o
  | none => m

end Fate

namespace Visit

/-- The key of the store for the request. -/
def storeKey (v : Visit ω) : String := v.cache.storeKey v.request.cacheKey

/-- The sample that the cache has for the request. -/
def cached (v : Visit ω) : Except Fault (Option Sample) :=
  (v.cache.look v.before.store v.request.cacheKey).map Lookup.sample?

/-- The source is asked. -/
def asks (v : Visit ω) : Bool :=
  match v.cached with
  | .ok none => !v.before.stopping
  | _ => false

/-- What the source says if it is asked. -/
def reply (v : Visit ω) : Reply := v.before.replyOf v.client v.request.name

/-- The intake once the source was asked, if it is. -/
def asked (v : Visit ω) : Intake ω :=
  if v.asks then (v.before.fetch v.client v.request.name).2 else v.before

/-- The sample of a resolution is to be kept. -/
def keeps (v : Visit ω) (resolution : Resolution) : Bool :=
  resolution.shouldCache && 0 < v.request.cacheMillis

/-- What becomes of a request that has a sample to go on with. -/
def fateOf (v : Visit ω) (resolution : Resolution) : Fate :=
  match resolution.sample.judge with
  | .rejected why => .rejected resolution why
  | .fault f => .raised f
  | .accepted reading =>
    match if v.keeps resolution then resolution.sample.halves? else none with
    | some halves => .raised (.unwritable halves)
    | none => .loaded resolution reading

/-- What becomes of the request. -/
def fate (v : Visit ω) : Fate :=
  match v.cached with
  | .error f => .raised f
  | .ok (some sample) => v.fateOf { sample, shouldCache := false, isDefault := false }
  | .ok none =>
    if v.before.stopping then .skipped
    else
      match v.reply.outcome with
      | .error (.source e) => .failed e
      | .error (.fault f) => .raised f
      | .ok sample? =>
        match v.request.settle v.before.clock.now sample? with
        | none => .empty
        | some resolution => v.fateOf resolution

/-- What a fate leaves in the store under the key of the request. -/
def entryOf (v : Visit ω) : Fate → Option Entry
  | .loaded resolution _ =>
    if v.keeps resolution ∧ v.before.store.writeFailure = none then
      some { bytes := resolution.sample.dumpBytes, ttl := v.request.cacheMillis }
    else none
  | _ => none

/-- The store after a fate. -/
def storeOf (v : Visit ω) (fate : Fate) : Store :=
  match v.entryOf fate with
  | some entry => v.before.store.insert v.storeKey entry
  | none => v.before.store

/-- What the request leaves in the store. -/
def written? (v : Visit ω) : Option Entry := v.entryOf v.fate

/-- What is returned for the request. -/
def answer (v : Visit ω) : Except Failure (Option Reading) :=
  (v.before.processRequest v.request v.client v.cache).1

/-- The intake after the request. -/
def after (v : Visit ω) : Intake ω := (v.before.processRequest v.request v.client v.cache).2

/-! ### What a request does -/

theorem storeOf_of_entryOf_eq_none {v : Visit ω} {fate : Fate} (h : v.entryOf fate = none) :
    v.storeOf fate = v.before.store := by
  rw [storeOf, h]

theorem keeps_eq_true_iff {v : Visit ω} {resolution : Resolution} :
    v.keeps resolution = true ↔ resolution.shouldCache = true ∧ 0 < v.request.cacheMillis := by
  rw [keeps, Bool.and_eq_true, decide_eq_true_eq]

/-- A sample that is kept is written unless it cannot be, or the store does not take it. -/
theorem writeCache_of_pos (v : Visit ω) (sample : Sample) (k : Intake ω)
    (hk : k.store = v.before.store) (hm : 0 < v.request.cacheMillis) :
    (∃ halves, sample.halves? = some halves ∧
      k.writeCache v.cache v.request.cacheKey sample v.request.cacheMillis =
        (.error (.fault (.unwritable halves)), k)) ∨
    (sample.halves? = none ∧ ∃ records,
      k.writeCache v.cache v.request.cacheKey sample v.request.cacheMillis =
        (.ok (), { k with
          store := if v.before.store.writeFailure = none then
              v.before.store.insert v.storeKey
                { bytes := sample.dumpBytes, ttl := v.request.cacheMillis }
            else v.before.store }.say records)) := by
  have hm' : ¬ (v.request.cacheMillis : Int) ≤ 0 := by omega
  rw [Intake.writeCache, Cache.keep, if_neg hm', hk]
  cases hh : sample.halves? with
  | some halves => exact .inl ⟨halves, rfl, rfl⟩
  | none =>
    refine .inr ⟨rfl, ?_⟩
    cases hw : v.before.store.writeFailure with
    | some message => exact ⟨_, rfl⟩
    | none => exact ⟨_, rfl⟩

/-- Without a time to live nothing is written. -/
theorem writeCache_zero (cache : Cache) (key : String) (sample : Sample) (k : Intake ω) :
    k.writeCache cache key sample 0 = (.ok (), k.say []) :=
  rfl

/-- A request that has a sample to go on with is judged, kept and counted as its fate says. -/
theorem finish_eq (v : Visit ω) (resolution : Resolution) (k : Intake ω)
    (hk : k.store = v.before.store) :
    (k.finish v.request v.client v.cache resolution).1 =
        (v.fateOf resolution).answer v.request ∧
      (k.finish v.request v.client v.cache resolution).2.quiet =
        { k with
          store := v.storeOf (v.fateOf resolution)
          metrics := (v.fateOf resolution).tally k.metrics }.quiet := by
  unfold Intake.finish Intake.readSample fateOf
  cases hj : resolution.sample.judge with
  | rejected why =>
    refine ⟨rfl, ?_⟩
    rw [storeOf_of_entryOf_eq_none rfl, ← hk]
    rfl
  | fault f =>
    refine ⟨rfl, ?_⟩
    rw [storeOf_of_entryOf_eq_none rfl, ← hk]
    rfl
  | accepted reading =>
    dsimp only
    by_cases hkeep : v.keeps resolution = true
    · obtain ⟨hc, hm⟩ := keeps_eq_true_iff.1 hkeep
      rw [if_pos hkeep, if_pos hc]
      obtain ⟨halves, hh, hw⟩ | ⟨hh, records, hw⟩ := v.writeCache_of_pos resolution.sample k hk hm
      · rw [hw, hh]
        refine ⟨rfl, ?_⟩
        rw [storeOf_of_entryOf_eq_none rfl, ← hk]
        rfl
      · rw [hw, hh]
        refine ⟨rfl, ?_⟩
        simp only [storeOf, entryOf, hkeep, true_and]
        split <;> rfl
    · -- the sample is not to be kept: the store stays
      have hs : v.storeOf (.loaded resolution reading) = k.store := by
        rw [storeOf_of_entryOf_eq_none, hk]
        exact if_neg fun h => hkeep h.1
      rw [if_neg hkeep]
      dsimp only
      rw [hs]
      by_cases hc : resolution.shouldCache = true
      · -- it may be kept, but for no time at all
        have hm : v.request.cacheMillis = 0 :=
          Nat.eq_zero_of_not_pos fun hpos => hkeep (keeps_eq_true_iff.2 ⟨hc, hpos⟩)
        rw [if_pos hc, hm, writeCache_zero]
        exact ⟨rfl, rfl⟩
      · rw [if_neg hc]
        exact ⟨rfl, rfl⟩

/-- Reading the cache only says something. -/
theorem readCache_eq (v : Visit ω) :
    ∃ records, v.before.readCache v.cache v.request.cacheKey =
      (match v.cached with
        | .ok sample? => .ok sample?
        | .error f => .error (.fault f), v.before.say records) := by
  rw [Intake.readCache, cached]
  cases v.cache.look v.before.store v.request.cacheKey with
  | ok found => exact ⟨_, rfl⟩
  | error f =>
    -- a fault says nothing, which is the same as saying the empty list
    exact ⟨[], by rw [Intake.say, List.append_nil]; rfl⟩

/-- What the answer of a source comes to, and what is said about it. -/
theorem settle_eq (r : Request) (source : String) (sample? : Option Sample) (k : Intake ω) :
    (k.settle r source sample?).1 = r.settle k.clock.now sample? ∧
      (k.settle r source sample?).2.quiet =
        { k with
          metrics := if (r.settle k.clock.now sample?).isNone then k.metrics.add .noData
            else k.metrics }.quiet := by
  unfold Intake.settle
  cases r.settle k.clock.now sample? with
  | none => exact ⟨rfl, rfl⟩
  | some resolution =>
    dsimp only
    split <;> exact ⟨rfl, rfl⟩

/-- A request that is not in the cache asks its source. -/
theorem resolveSample_of_asks (v : Visit ω) (hc : v.cached = .ok none)
    (hs : v.before.stopping = false) :
    ∃ k : Intake ω, k.quiet = v.asked.quiet ∧
      v.before.resolveSample v.request v.client v.cache =
        match v.reply.outcome with
        | .error (.source e) =>
          (.ok none, (k.say [v.request.failedRecord v.client.source.id e]).count .failed)
        | .error (.fault f) => (.error (.fault f), k)
        | .ok sample? =>
          (.ok (k.settle v.request v.client.source.id sample?).1,
            (k.settle v.request v.client.source.id sample?).2) := by
  obtain ⟨records, hread⟩ := v.readCache_eq
  have hasked : v.asked = (v.before.fetch v.client v.request.name).2 := by
    simp [asked, asks, hc, hs]
  obtain ⟨hfst, hsnd⟩ := Intake.fetch_say v.client v.request.name v.before records
  refine ⟨((v.before.say records).fetch v.client v.request.name).2, hasked ▸ hsnd, ?_⟩
  have hsay : ¬ (v.before.say records).stopping = true := by
    rw [Bool.not_eq_true]; exact hs
  have hpair : (v.before.say records).fetch v.client v.request.name =
      (v.reply.outcome, ((v.before.say records).fetch v.client v.request.name).2) := rfl
  rw [Intake.resolveSample, hread, hc]
  dsimp only
  rw [if_neg hsay, hpair]
  cases v.reply.outcome with
  | ok sample? => rfl
  | error failure => cases failure <;> rfl

/-- The fate of a request that is not in the cache is up to its source. -/
theorem fate_of_asks (v : Visit ω) (hc : v.cached = .ok none) (hs : v.before.stopping = false) :
    v.fate =
      match v.reply.outcome with
      | .error (.source e) => .failed e
      | .error (.fault f) => .raised f
      | .ok sample? =>
        match v.request.settle v.before.clock.now sample? with
        | none => .empty
        | some resolution => v.fateOf resolution := by
  rw [fate, hc]
  exact if_neg (by rw [hs]; exact Bool.false_ne_true)

@[simp]
theorem asked_store (v : Visit ω) : v.asked.store = v.before.store := by
  unfold asked
  split
  · exact Intake.fetch_store ..
  · rfl

@[simp]
theorem asked_now (v : Visit ω) : v.asked.clock.now = v.before.clock.now := by
  unfold asked
  split
  · exact Intake.fetch_now ..
  · rfl

/-- **What a request does**: its answer is that of its fate, and besides what asking the source does
it changes the store and the counts as its fate says. -/
theorem processRequest_eq (v : Visit ω) :
    v.answer = v.fate.answer v.request ∧
      v.after.quiet =
        { v.asked with
          store := v.storeOf v.fate
          metrics := v.fate.tally v.asked.metrics }.quiet := by
  unfold answer after Intake.processRequest
  -- the cases are those of `fate`: only in the last one is the source asked
  cases hc : v.cached with
  | error f =>
    have hasked : v.asked = v.before := by simp [asked, asks, hc]
    have hfate : v.fate = .raised f := by rw [fate, hc]
    obtain ⟨records, hread⟩ := v.readCache_eq
    rw [Intake.resolveSample, hread, hc, hfate, hasked, storeOf_of_entryOf_eq_none rfl]
    exact ⟨rfl, rfl⟩
  | ok sample? =>
    cases sample? with
    | some sample =>
      have hasked : v.asked = v.before := by simp [asked, asks, hc]
      have hfate : v.fate = v.fateOf { sample, shouldCache := false, isDefault := false } := by
        rw [fate, hc]
      obtain ⟨records, hread⟩ := v.readCache_eq
      rw [Intake.resolveSample, hread, hc, hfate, hasked]
      exact v.finish_eq _ (v.before.say records) rfl
    | none =>
      cases hs : v.before.stopping with
      | true =>
        have hasked : v.asked = v.before := by simp [asked, asks, hc, hs]
        have hfate : v.fate = .skipped := by rw [fate, hc]; exact if_pos hs
        obtain ⟨records, hread⟩ := v.readCache_eq
        rw [Intake.resolveSample, hread, hc, hfate, hasked, storeOf_of_entryOf_eq_none rfl]
        simp only [Intake.say, hs, if_true]
        exact ⟨rfl, rfl⟩
      | false =>
        -- `k` is `v.asked` but for what reading the cache said
        obtain ⟨k, hk, hresolve⟩ := v.resolveSample_of_asks hc hs
        have hstore : k.store = v.before.store :=
          (Intake.eq_of_quiet Intake.store (fun _ => rfl) hk).trans v.asked_store
        have hnow : k.clock.now = v.before.clock.now :=
          (Intake.eq_of_quiet (·.clock.now) (fun _ => rfl) hk).trans v.asked_now
        rw [hresolve, v.fate_of_asks hc hs]
        cases v.reply.outcome with
        | error failure =>
          cases failure with
          | source e =>
            rw [storeOf_of_entryOf_eq_none rfl, ← hstore]
            exact ⟨rfl, Intake.quiet_congr hk k.store (·.add .failed)⟩
          | fault f =>
            rw [storeOf_of_entryOf_eq_none rfl, ← hstore]
            exact ⟨rfl, Intake.quiet_congr hk k.store id⟩
        | ok sample? =>
          obtain ⟨hres, hquiet⟩ := settle_eq v.request v.client.source.id sample? k
          rw [← hnow]
          dsimp only
          rw [hres]
          cases hr : v.request.settle k.clock.now sample? with
          | none =>
            rw [hr] at hquiet
            rw [storeOf_of_entryOf_eq_none rfl, ← hstore]
            exact ⟨rfl, hquiet.trans (Intake.quiet_congr hk k.store (·.add .noData))⟩
          | some resolution =>
            rw [hr] at hquiet
            obtain ⟨hfst, hsnd⟩ := v.finish_eq resolution
              (k.settle v.request v.client.source.id sample?).2
              ((Intake.eq_of_quiet Intake.store (fun _ => rfl) hquiet).trans hstore)
            exact ⟨hfst, hsnd.trans (Intake.quiet_congr (hquiet.trans hk)
              (v.storeOf (v.fateOf resolution)) ((v.fateOf resolution).tally ·))⟩

/-! ### The parts of an intake after a request -/

section Parts

variable (v : Visit ω)

theorem answer_eq : v.answer = v.fate.answer v.request :=
  v.processRequest_eq.1

/-- A part other than the store, the metrics and the records is as asking the source left it. -/
theorem after_eq_asked {α : Type} (f : Intake ω → α)
    (hf : ∀ (k : Intake ω) store metrics,
      f { k with store := store, metrics := metrics }.quiet = f k) :
    f v.after = f v.asked :=
  calc f v.after = f v.after.quiet := (hf v.after v.after.store v.after.metrics).symm
    _ = f v.asked := by rw [v.processRequest_eq.2, hf]

theorem after_store : v.after.store = v.storeOf v.fate :=
  Intake.eq_of_quiet Intake.store (fun _ => rfl) v.processRequest_eq.2

/-- A request changes the entry under its own key only. -/
theorem after_get?_of_ne {key : String} (h : key ≠ v.storeKey) :
    v.after.store.get? key = v.before.store.get? key := by
  rw [after_store, storeOf]
  split
  · rw [Store.get?_insert, if_neg h]
  · rfl

/-- A request leaves the store up or down as it is. -/
theorem after_failures :
    v.after.store.readFailure = v.before.store.readFailure ∧
      v.after.store.writeFailure = v.before.store.writeFailure := by
  rw [after_store, storeOf]
  split <;> exact ⟨rfl, rfl⟩

theorem after_metrics : v.after.metrics = v.fate.tally v.asked.metrics :=
  Intake.eq_of_quiet Intake.metrics (fun _ => rfl) v.processRequest_eq.2

theorem after_resolver : v.after.resolver = v.before.resolver := by
  rw [v.after_eq_asked Intake.resolver fun _ _ _ => rfl, asked]
  split
  · exact Intake.fetch_resolver ..
  · rfl

theorem after_caches : v.after.caches = v.before.caches := by
  rw [v.after_eq_asked Intake.caches fun _ _ _ => rfl, asked]
  split
  · exact Intake.fetch_caches ..
  · rfl

theorem after_now : v.after.clock.now = v.before.clock.now := by
  rw [v.after_eq_asked (·.clock.now) fun _ _ _ => rfl, asked_now]

theorem after_outside :
    v.after.outside =
      if v.asks then
        (v.client.source.ask v.request.name v.before.clock.now v.before.outside).2
      else v.before.outside := by
  rw [v.after_eq_asked Intake.outside fun _ _ _ => rfl, asked]
  split
  · exact Intake.fetch_outside ..
  · rfl

theorem after_stopping :
    v.after.stopping = (v.before.stopping || (v.asks && v.reply.stops)) := by
  rw [v.after_eq_asked Intake.stopping fun _ _ _ => rfl, asked]
  cases v.asks
  · exact (Bool.or_false _).symm
  · exact Intake.fetch_stopping ..

theorem after_events :
    v.after.events =
      v.before.events ++
        if v.asks then
          Event.asked v.client.source.profile v.client.source.id v.request.name ::
            v.reply.requests.map Event.requested
        else [] := by
  rw [v.after_eq_asked Intake.events fun _ _ _ => rfl, asked]
  split
  · exact Intake.fetch_events ..
  · exact (List.append_nil _).symm

/-- A request that asks its source is timed once, any other not at all. -/
theorem after_timers :
    ∃ millis, v.after.metrics.timers =
      if v.asks then
        (v.before.metrics.record (Intake.timerName v.client.source.id) millis).timers
      else v.before.metrics.timers := by
  have htally : v.after.metrics.timers = v.asked.metrics.timers := by
    rw [after_metrics, Fate.tally]
    split <;> rfl
  obtain ⟨millis, h⟩ := Intake.fetch_metrics v.client v.request.name v.before
  refine ⟨millis, ?_⟩
  rw [htally, asked]
  split
  · rw [h]
  · rfl

/-- **One request, one count**: what a request counts as grows by one, and nothing else does. -/
theorem after_counts (o : Outcome) :
    v.after.metrics.counts.get o =
      v.before.metrics.counts.get o + if v.fate.outcome? = some o then 1 else 0 := by
  have hasked : v.asked.metrics.counts = v.before.metrics.counts := by
    unfold asked
    split
    · exact Intake.fetch_counts ..
    · rfl
  rw [after_metrics, Fate.tally, ← hasked]
  cases v.fate.outcome? with
  | none => simp
  | some p =>
    dsimp only [Metrics.add]
    rw [Counts.get_add]
    simp only [Option.some.injEq, eq_comm]

end Parts

/-! ### Fates -/

/-- A sample that may be kept is the answer of the source as it is, for a request that may keep it,
and has a value. -/
theorem settle_shouldCache {r : Request} {now : UtcTime} {sample? : Option Sample}
    {resolution : Resolution} (h : r.settle now sample? = some resolution)
    (hc : resolution.shouldCache = true) :
    sample? = some resolution.sample ∧ 0 < r.cacheMillis ∧
      resolution.sample.isTimedOut = false := by
  unfold Request.settle at h
  split at h
  · exact absurd h (Option.some_ne_none _).symm
  · obtain rfl := Option.some.inj h
    exact absurd hc Bool.false_ne_true
  · split at h
    · obtain rfl := Option.some.inj h
      exact absurd hc Bool.false_ne_true
    · rename_i hout
      obtain rfl := Option.some.inj h
      exact ⟨rfl, of_decide_eq_true hc, Bool.eq_false_iff.2 hout⟩
  · obtain rfl := Option.some.inj h
    obtain ⟨hpos, hout⟩ := Bool.and_eq_true_iff.1 hc
    exact ⟨rfl, of_decide_eq_true hpos, (Bool.not_eq_true' _).mp hout⟩

/-- An accepted sample has its time, its name and its value as its reading, and no message. -/
theorem judge_eq_accepted {sample : Sample} {reading : Reading}
    (h : sample.judge = .accepted reading) :
    readUtcTime sample.updatedAt = .ok reading.time ∧ readNumber sample.value = .ok reading.value ∧
      reading.name = sample.name ∧ reading.rawValue = reading.value ∧ reading.messages = [] := by
  unfold Sample.judge at h
  split at h
  · cases h
  · cases h
  · rename_i time htime
    split at h
    · cases h
    · rename_i value hvalue
      obtain rfl := Judgement.accepted.inj h
      exact ⟨htime, hvalue, rfl, rfl, rfl⟩

/-- A sample is accepted for its time and its value. -/
theorem judge_accepted {sample : Sample} {reading : Reading}
    (h : sample.judge = .accepted reading) :
    (∃ time, readUtcTime sample.updatedAt = .ok time) ∧
      ∃ value, readNumber sample.value = .ok value := by
  obtain ⟨htime, hvalue, -⟩ := judge_eq_accepted h
  exact ⟨⟨_, htime⟩, _, hvalue⟩

variable {v : Visit ω}

theorem fateOf_eq_loaded {resolution other : Resolution} {reading : Reading}
    (h : v.fateOf resolution = .loaded other reading) :
    other = resolution ∧ resolution.sample.judge = .accepted reading ∧
      (v.keeps resolution = true → resolution.sample.halves? = none) := by
  unfold fateOf at h
  split at h
  · cases h
  · cases h
  · rename_i hj
    split at h
    · cases h
    · rename_i hh
      cases h
      exact ⟨rfl, hj, fun hk => by rwa [if_pos hk] at hh⟩

theorem fateOf_ne_skipped (resolution : Resolution) : v.fateOf resolution ≠ .skipped := by
  unfold fateOf
  split
  · exact Fate.noConfusion
  · exact Fate.noConfusion
  · split <;> exact Fate.noConfusion

theorem asks_eq_true_iff : v.asks = true ↔ v.cached = .ok none ∧ v.before.stopping = false := by
  unfold asks
  split
  · rename_i hc
    rw [Bool.not_eq_true', hc]
    exact (and_iff_right rfl).symm
  · rename_i hc
    exact ⟨fun h => absurd h Bool.false_ne_true, fun h => absurd h.1 hc⟩

/-- Only what the cache does not have is skipped, and only after a shutdown was requested. -/
theorem fate_eq_skipped_iff :
    v.fate = .skipped ↔ v.cached = .ok none ∧ v.before.stopping = true := by
  constructor
  · intro h
    cases hc : v.cached with
    | error f =>
      rw [fate, hc] at h
      cases h
    | ok sample? =>
      cases sample? with
      | some sample =>
        rw [fate, hc] at h
        exact absurd h (fateOf_ne_skipped _)
      | none =>
        refine ⟨rfl, ?_⟩
        cases hs : v.before.stopping with
        | true => rfl
        | false =>
          rw [v.fate_of_asks hc hs] at h
          split at h
          · cases h
          · cases h
          · split at h
            · cases h
            · exact absurd h (fateOf_ne_skipped _)
  · rintro ⟨hc, hs⟩
    rw [fate, hc]
    exact if_pos hs

/-- A reading is that of a cached sample, which is not kept again, or of what the answer of the
source comes to. -/
theorem fate_eq_loaded {resolution : Resolution} {reading : Reading}
    (h : v.fate = .loaded resolution reading) :
    v.fateOf resolution = .loaded resolution reading ∧
      ((v.cached = .ok (some resolution.sample) ∧ resolution.shouldCache = false) ∨
        (v.asks = true ∧ ∃ sample?, v.reply.outcome = .ok sample? ∧
          v.request.settle v.before.clock.now sample? = some resolution)) := by
  cases hc : v.cached with
  | error f =>
    rw [fate, hc] at h
    cases h
  | ok cached? =>
    cases cached? with
    | some sample =>
      rw [fate, hc] at h
      obtain ⟨rfl, -, -⟩ := fateOf_eq_loaded h
      exact ⟨h, .inl ⟨rfl, rfl⟩⟩
    | none =>
      cases hs : v.before.stopping with
      | true => exact absurd (h.symm.trans (fate_eq_skipped_iff.2 ⟨hc, hs⟩)) Fate.noConfusion
      | false =>
        rw [v.fate_of_asks hc hs] at h
        split at h
        · cases h
        · cases h
        · rename_i sample? hreply
          split at h
          · cases h
          · rename_i other hsettle
            obtain ⟨rfl, -, -⟩ := fateOf_eq_loaded h
            exact ⟨h, .inr ⟨asks_eq_true_iff.2 ⟨hc, hs⟩, sample?, hreply, hsettle⟩⟩

/-- What a request leaves in the store is what its source was just asked for. -/
theorem loaded_of_written? {e : Entry} (h : v.written? = some e) :
    ∃ resolution reading sample?,
      v.fate = .loaded resolution reading ∧ resolution.sample.judge = .accepted reading ∧
        resolution.sample.halves? = none ∧ resolution.shouldCache = true ∧
        e = { bytes := resolution.sample.dumpBytes, ttl := v.request.cacheMillis } ∧
        v.asks = true ∧ v.reply.outcome = .ok sample? ∧
        v.request.settle v.before.clock.now sample? = some resolution := by
  unfold written? entryOf at h
  split at h
  · rename_i resolution reading hfate
    split at h
    · rename_i hkeeps
      obtain rfl := Option.some.inj h
      obtain ⟨hof, hfrom⟩ := fate_eq_loaded hfate
      obtain ⟨-, hjudge, hhalves⟩ := fateOf_eq_loaded hof
      have hcache := (keeps_eq_true_iff.1 hkeeps.1).1
      -- a sample that was cached already is not kept again
      rcases hfrom with ⟨-, hnot⟩ | ⟨hasks, sample?, hreply, hsettle⟩
      · rw [hcache] at hnot
        cases hnot
      · exact ⟨resolution, reading, sample?, hfate, hjudge, hhalves hkeeps.1, hcache, rfl, hasks,
          hreply, hsettle⟩
    · cases h
  · cases h

/-- A request ends the work on its source or is counted, unless it is skipped. -/
theorem outcome?_eq_none_iff :
    v.fate.outcome? = none ↔ v.fate = .skipped ∨ ∃ f, v.answer = .error f := by
  rw [answer_eq]
  cases v.fate <;> simp [Fate.outcome?, Fate.answer]

/-- A request counts as succeeded just if it has a reading. -/
theorem outcome?_eq_succeeded_iff :
    v.fate.outcome? = some .succeeded ↔ ∃ reading, v.answer = .ok (some reading) := by
  rw [answer_eq]
  cases v.fate <;> simp [Fate.outcome?, Fate.answer]

end Visit

end MetricIntake
