import MetricIntake.Proofs.Rows
import MetricIntake.Proofs.Times

/-!
# Default values

Where a source has no sample for a request, or ran out of time for it, the default value of the
request stands in.  A finite one is taken through its written form to the reading without a change
and is never kept (`default_honoured`).  One that is infinite or not a number has no written form
that is a number, and leaves its request without data.
-/

namespace MetricIntake

variable {ω : Type}

/-! ### Samples with a default value -/

/-- Only what is written of a finite double is read. -/
theorem readNumber_plain_of_not_finite {x : Double} (h : x.isFinite = false) :
    ∃ e, readNumber (CodeText.ofString x.plain) = .error e := by
  cases hread : readNumber (CodeText.ofString x.plain) with
  | error e => exact ⟨e, rfl⟩
  | ok y =>
    rw [(finite_of_readNumber_plain hread).1] at h
    cases h

/-- A finite double is read from what is written of it with its value. -/
theorem exists_readNumber_plain {x : Double} (h : x.isFinite = true) :
    ∃ y, readNumber (CodeText.ofString x.plain) = .ok y ∧ y.units? = x.units? := by
  cases x with
  | nan => cases h
  | infinite negative => cases h
  | finite negative m =>
    have hread := readNumber_plain negative m
    exact ⟨_, hread, (finite_of_readNumber_plain hread).2.2⟩

namespace Visit

/-- The source has no value for the request: it has no sample, or it ran out of time for the value
of one.  A value that stands in has the time of the request, or that of the sample. -/
inductive Lacks (v : Visit ω) : UtcTime → Prop
  | noSample (hreply : v.reply.outcome = .ok none) : Lacks v v.before.clock.now
  | timedOut {sample : Sample} {time : UtcTime} (hreply : v.reply.outcome = .ok (some sample))
      (hvalue : sample.value = Sample.timeoutValue)
      (htime : readUtcTime sample.updatedAt = .ok time) : Lacks v time

/-- The request has the default value as its reading, and nothing of it is kept. -/
structure Honours (v : Visit ω) (x : Double) (time : UtcTime) : Prop where
  answer : ∃ reading, v.answer = .ok (some reading) ∧ reading.time = time ∧
    reading.value.units? = x.units? ∧ reading.rawValue = reading.value ∧
    reading.messages = [defaultMessage v.request.name x]
  counts : ∀ o, v.after.metrics.counts.get o =
    v.before.metrics.counts.get o + if o = .succeeded then 1 else 0
  store : v.after.store = v.before.store

/-- The request has no reading, and nothing of it is kept. -/
structure Declines (v : Visit ω) : Prop where
  answer : v.answer = .ok none
  counts : ∀ o, v.after.metrics.counts.get o =
    v.before.metrics.counts.get o + if o = .noData then 1 else 0
  store : v.after.store = v.before.store

variable {v : Visit ω}

/-- Where the store has no entry, the cache has no sample, whether or not it can be read. -/
theorem cached_of_get?_eq_none (h : v.before.store.get? v.storeKey = none) :
    v.cached = .ok none := by
  rw [storeKey] at h
  unfold cached Cache.look
  rw [h]
  cases v.before.store.readFailure with
  | some message => rfl
  | none => rfl

/-- **What stands in for a value that the source lacks** is a sample with the default value, and is
not to be kept. -/
theorem exists_settle_of_lacks {x : Double} {time : UtcTime}
    (hdefault : v.request.defaultValue = some x) (h : v.Lacks time) :
    ∃ sample? sample, v.reply.outcome = .ok sample? ∧
      v.request.settle v.before.clock.now sample? =
        some { sample, shouldCache := false, isDefault := true } ∧
      sample.value = CodeText.ofString x.plain ∧ readUtcTime sample.updatedAt = .ok time := by
  cases h with
  | noSample hreply =>
    have hsettle : v.request.settle v.before.clock.now none =
        some
          { sample :=
              { name := v.request.name, value := x.plain, updatedAt := v.before.clock.now.iso }
            shouldCache := false
            isDefault := true } := by
      unfold Request.settle
      rw [hdefault]
    refine ⟨none, _, hreply, hsettle, rfl, ?_⟩
    dsimp only
    exact readUtcTime_iso v.before.clock.now
  | timedOut hreply hvalue htime =>
    rename_i sample
    have hout : sample.isTimedOut = true := decide_eq_true hvalue
    have hsettle : v.request.settle v.before.clock.now (some sample) =
        some
          { sample := { sample with value := x.plain }
            shouldCache := false
            isDefault := true } := by
      unfold Request.settle
      rw [hdefault]
      exact if_pos hout
    exact ⟨some sample, _, hreply, hsettle, rfl, htime⟩

/-- Where the cache has nothing, the request goes on with it. -/
theorem fate_of_lacks {x : Double} {time : UtcTime} (hdefault : v.request.defaultValue = some x)
    (hcached : v.cached = .ok none) (hopen : v.before.stopping = false) (h : v.Lacks time) :
    ∃ sample : Sample, sample.value = CodeText.ofString x.plain ∧
      readUtcTime sample.updatedAt = .ok time ∧
      v.fate = v.fateOf { sample, shouldCache := false, isDefault := true } := by
  obtain ⟨sample?, sample, hreply, hsettle, hvalue, htime⟩ := exists_settle_of_lacks hdefault h
  refine ⟨sample, hvalue, htime, ?_⟩
  rw [v.fate_of_asks hcached hopen, hreply]
  dsimp only
  rw [hsettle]

/-- Nothing that is not to be kept is written. -/
theorem after_store_of_not_keeps {resolution : Resolution} (hfate : v.fate = v.fateOf resolution)
    (hkeeps : v.keeps resolution = false) : v.after.store = v.before.store := by
  rw [after_store]
  refine storeOf_of_entryOf_eq_none ?_
  unfold entryOf
  split
  · rename_i other reading hloaded
    rw [hfate] at hloaded
    obtain ⟨rfl, -⟩ := fateOf_eq_loaded hloaded
    exact if_neg fun h => absurd h.1 (by simp [hkeeps])
  · rfl

/-- A request counts as its fate does. -/
theorem after_counts_of_outcome? {p : Outcome} (h : v.fate.outcome? = some p) (o : Outcome) :
    v.after.metrics.counts.get o = v.before.metrics.counts.get o + if o = p then 1 else 0 := by
  rw [v.after_counts o, h]
  simp only [Option.some.injEq, eq_comm]

variable {x : Double} {time : UtcTime} {sample : Sample}

/-- A sample that has a finite default value is taken, with the message that says so. -/
theorem honours_of_fateOf (hdefault : v.request.defaultValue = some x)
    (hvalue : sample.value = CodeText.ofString x.plain)
    (htime : readUtcTime sample.updatedAt = .ok time)
    (hfate : v.fate = v.fateOf { sample, shouldCache := false, isDefault := true })
    (hfinite : x.isFinite = true) : v.Honours x time := by
  obtain ⟨y, hread, hunits⟩ := exists_readNumber_plain hfinite
  let reading : Reading := { time, name := sample.name, value := y, rawValue := y, messages := [] }
  have hjudge : sample.judge = .accepted reading := by
    rw [Sample.judge, htime, hvalue, hread]
  have hloaded :
      v.fate = .loaded { sample, shouldCache := false, isDefault := true } reading := by
    rw [hfate, fateOf, hjudge]
    rfl
  have hanswer : v.answer =
      .ok (some (reading.withMessage (defaultMessage v.request.name x))) := by
    rw [answer_eq, hloaded, Fate.answer, Intake.markDefault, hdefault]
  refine ⟨⟨_, hanswer, rfl, hunits, rfl, rfl⟩, ?_, after_store_of_not_keeps hfate rfl⟩
  exact after_counts_of_outcome? (by rw [hloaded]; rfl)

/-- A sample that has another default value is rejected. -/
theorem declines_of_fateOf (hvalue : sample.value = CodeText.ofString x.plain)
    (htime : readUtcTime sample.updatedAt = .ok time)
    (hfate : v.fate = v.fateOf { sample, shouldCache := false, isDefault := true })
    (hfinite : x.isFinite = false) : v.Declines := by
  obtain ⟨e, hread⟩ := readNumber_plain_of_not_finite hfinite
  obtain ⟨why, hjudge⟩ : ∃ why, sample.judge = .rejected why := by
    rw [Sample.judge, htime, hvalue, hread]
    exact ⟨_, rfl⟩
  have hrejected :
      v.fate = .rejected { sample, shouldCache := false, isDefault := true } why := by
    rw [hfate, fateOf, hjudge]
  refine ⟨by rw [answer_eq, hrejected]; rfl, ?_, after_store_of_not_keeps hfate rfl⟩
  exact after_counts_of_outcome? (by rw [hrejected]; rfl)

end Visit

/-- **A default value is honoured just if it is finite.**  Where the store has no entry for a
request and no shutdown was requested, a source that lacks the value leaves the request with its
default value, the time of the request or that of the sample whose value is late, and the one
message that says so; it succeeds, and nothing is kept.  With a default value that is infinite or
not a number the request has no data. -/
theorem default_honoured {v : Visit ω} {x : Double} {time : UtcTime}
    (hdefault : v.request.defaultValue = some x)
    (hstore : v.before.store.get? v.storeKey = none) (hopen : v.before.stopping = false)
    (h : v.Lacks time) :
    (x.isFinite = true → v.Honours x time) ∧ (x.isFinite = false → v.Declines) := by
  obtain ⟨sample, hvalue, htime, hfate⟩ :=
    Visit.fate_of_lacks hdefault (Visit.cached_of_get?_eq_none hstore) hopen h
  exact ⟨Visit.honours_of_fateOf hdefault hvalue htime hfate,
    Visit.declines_of_fateOf hvalue htime hfate⟩

/-- The first request to a source that has one answer for all of them. -/
def Visit.first (r : Request) (outcome : Except Failure (Option Sample)) : Visit (String → Nat) :=
  { request := r
    client := { serial := 0, source := .scripted "s1" fun _ _ => .plain outcome }
    cache := { keyspace := Cache.defaultKeyspace, source := "s1", depth := default }
    before := .unused }

/-- A sample whose value is late, at a quarter past ten in UTC. -/
def Sample.late : Sample :=
  { name := "m", value := timeoutValue, updatedAt := "2026-01-20T11:15:00+01:00" }

/-- A request whose default value is minus two and a half. -/
def Request.halved : Request :=
  { source := "s1"
    name := "m"
    defaultValue := some (Decimal.toDouble { negative := true, digits := 25, exponent := -1 })
    cacheMillis := 1000 }

theorem default_honoured_late :
    (Visit.first .halved (.ok (some .late))).Honours
      (Decimal.toDouble { negative := true, digits := 25, exponent := -1 })
      ⟨63904500900000000, by decide⟩ :=
  (default_honoured rfl rfl rfl (.timedOut rfl rfl (by decide +kernel))).1 (by decide +kernel)

/-- A request whose default value is infinite. -/
def Request.boundless : Request :=
  { source := "s1", name := "m", defaultValue := some (.infinite false), cacheMillis := 0 }

/-- An infinite default value can be asked for and is not honoured. -/
theorem default_infinite_declined :
    Request.ofJson (.object [("source", .text "s1"), ("name", .text "m"),
      ("default_value", .text "inf")]) = .ok .boundless ∧
    (Visit.first .boundless (.ok none)).before.store.get?
      (Visit.first .boundless (.ok none)).storeKey = none ∧
    (Visit.first .boundless (.ok none)).before.stopping = false ∧
    (Visit.first .boundless (.ok none)).reply.outcome = .ok none ∧
    (Visit.first .boundless (.ok none)).answer = .ok none ∧
    (Visit.first .boundless (.ok none)).after.metrics.counts =
      { succeeded := 0, noData := 1, failed := 0 } := by
  decide +kernel

end MetricIntake
