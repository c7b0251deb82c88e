import MetricIntake.Proofs.Run

/-!
# Answers and rows

A request that does not ask its source raises, is passed over or goes on with what is cached
(`Visit.fate_of_not_asks`), and besides what is counted for it nothing changes.  A request whose
cached sample is accepted is a hit: `Visit.fate_of_hit`.  The rows of a batch are those of its
requests in their turns: `Call.rows_eq`.
-/

namespace MetricIntake

variable {ω : Type}

namespace Visit

/-! ### Requests that do not ask their source -/

section NotAsking

variable {v : Visit ω}

theorem cached_eq_some_iff {sample : Sample} :
    v.cached = .ok (some sample) ↔
      v.cache.look v.before.store v.request.cacheKey = .ok (.found sample) := by
  unfold cached
  cases v.cache.look v.before.store v.request.cacheKey with
  | error f => simp [Except.map]
  | ok found => cases found <;> simp [Except.map, Lookup.sample?]

/-- A sample that is not to be kept is only judged. -/
theorem fateOf_of_not_keeps {resolution : Resolution} (h : v.keeps resolution = false) :
    v.fateOf resolution =
      match resolution.sample.judge with
      | .rejected why => .rejected resolution why
      | .fault f => .raised f
      | .accepted reading => .loaded resolution reading := by
  cases hj : resolution.sample.judge with
  | rejected why => simp only [fateOf, hj]
  | fault f => simp only [fateOf, hj]
  | accepted reading => simp [fateOf, hj, h]

/-- A cached sample is judged and not kept again. -/
theorem fateOf_cached (sample : Sample) :
    v.fateOf ⟨sample, false, false⟩ =
      match sample.judge with
      | .rejected why => .rejected ⟨sample, false, false⟩ why
      | .fault f => .raised f
      | .accepted reading => .loaded ⟨sample, false, false⟩ reading :=
  fateOf_of_not_keeps rfl

/-- Without asking, all there is to go on with is a cached sample. -/
theorem fate_of_not_asks (h : v.asks = false) :
    (∃ f, v.fate = .raised f) ∨ v.fate = .skipped ∨
      ∃ sample, v.cached = .ok (some sample) ∧ v.fate = v.fateOf ⟨sample, false, false⟩ := by
  cases hc : v.cached with
  | error f => exact .inl ⟨f, by rw [fate, hc]⟩
  | ok sample? =>
    cases sample? with
    | some sample => exact .inr (.inr ⟨sample, rfl, by rw [fate, hc]⟩)
    | none =>
      -- only a shutdown keeps it from asking
      have hs : v.before.stopping = true := by
        rw [asks, hc] at h
        exact (Bool.not_eq_false' _).mp h
      exact .inr (.inl (fate_eq_skipped_iff.2 ⟨hc, hs⟩))

/-- Nothing is written without asking. -/
theorem written?_of_not_asks (h : v.asks = false) : v.written? = none := by
  rw [written?]
  obtain ⟨f, hfate⟩ | hfate | ⟨sample, -, hfate⟩ := fate_of_not_asks h
  · rw [hfate]
    rfl
  · rw [hfate]
    rfl
  · rw [hfate, fateOf_cached]
    cases sample.judge <;> rfl

/-- Nothing fails without asking. -/
theorem outcome?_of_not_asks (h : v.asks = false) : v.fate.outcome? ≠ some .failed := by
  obtain ⟨f, hfate⟩ | hfate | ⟨sample, -, hfate⟩ := fate_of_not_asks h
  · simp [hfate, Fate.outcome?]
  · simp [hfate, Fate.outcome?]
  · rw [hfate, fateOf_cached]
    cases sample.judge <;> simp [Fate.outcome?]

theorem after_store_of_not_asks (h : v.asks = false) : v.after.store = v.before.store := by
  rw [v.after_store]
  exact storeOf_of_entryOf_eq_none (written?_of_not_asks h)

theorem after_events_of_not_asks (h : v.asks = false) : v.after.events = v.before.events := by
  rw [v.after_events, h, if_neg Bool.false_ne_true, List.append_nil]

theorem after_timers_of_not_asks (h : v.asks = false) :
    v.after.metrics.timers = v.before.metrics.timers := by
  obtain ⟨millis, htimers⟩ := v.after_timers
  rw [htimers, h, if_neg Bool.false_ne_true]

/-! ### Hits -/

/-- A cached sample that is accepted is all that a request needs. -/
theorem fate_of_hit {sample : Sample} {reading : Reading} (hc : v.cached = .ok (some sample))
    (hj : sample.judge = .accepted reading) :
    v.asks = false ∧ v.fate = .loaded ⟨sample, false, false⟩ reading := by
  constructor
  · rw [asks, hc]
  · rw [fate, hc]
    show v.fateOf ⟨sample, false, false⟩ = _
    rw [fateOf_cached, hj]

/-- A hit counts as succeeded and is counted nowhere else. -/
theorem after_metrics_of_hit {sample : Sample} {reading : Reading}
    (hc : v.cached = .ok (some sample)) (hj : sample.judge = .accepted reading) :
    v.after.metrics = v.before.metrics.add .succeeded := by
  obtain ⟨hasks, hfate⟩ := fate_of_hit hc hj
  have hasked : v.asked = v.before := by rw [asked, hasks, if_neg Bool.false_ne_true]
  rw [v.after_metrics, hfate, hasked]
  rfl

end NotAsking

/-! ### Rows -/

/-- The row of the request, if it has a reading. -/
def row? (v : Visit ω) : Option (List Reading) :=
  match v.answer with
  | .ok (some reading) => some [reading]
  | _ => none

/-- Without asking, a row is the reading of a cached sample. -/
theorem row?_of_not_asks {v : Visit ω} {row : List Reading} (h : v.asks = false)
    (hrow : v.row? = some row) :
    ∃ sample reading, v.cached = .ok (some sample) ∧ sample.judge = .accepted reading ∧
      row = [reading] := by
  rw [row?, v.answer_eq] at hrow
  obtain ⟨f, hfate⟩ | hfate | ⟨sample, hc, hfate⟩ := fate_of_not_asks h
  · rw [hfate] at hrow
    cases hrow
  · rw [hfate] at hrow
    cases hrow
  · refine ⟨sample, ?_⟩
    rw [hfate, fateOf_cached] at hrow
    cases hj : sample.judge with
    | accepted reading =>
      rw [hj] at hrow
      exact ⟨reading, hc, rfl, (Option.some.inj hrow).symm⟩
    | rejected why =>
      rw [hj] at hrow
      cases hrow
    | fault f =>
      rw [hj] at hrow
      cases hrow

end Visit

/-! ### The rows of a batch -/

/-- The requests of a source have their turns with its client and its cache. -/
theorem of_mem_visitsOf {client : Client ω} {cache : Cache} {requests : List Request}
    {k : Intake ω} {v : Visit ω} (h : v ∈ visitsOf client cache requests k) :
    v.request ∈ requests ∧ v.client = client ∧ v.cache = cache := by
  induction requests generalizing k with
  | nil => cases h
  | cons r rest ih =>
    rw [visitsOf] at h
    rcases List.mem_cons.1 h with rfl | h
    · exact ⟨List.mem_cons_self, rfl, rfl⟩
    · split at h
      · obtain ⟨hmem, hclient, hcache⟩ := ih h
        exact ⟨List.mem_cons_of_mem _ hmem, hclient, hcache⟩
      · cases h

/-- The rows of a source are those of its requests. -/
theorem processRequests_rows {client : Client ω} {cache : Cache} {requests : List Request}
    {k : Intake ω} {rows : List (List Reading)}
    (h : (k.processRequests client cache requests).1 = .ok rows) :
    rows = (visitsOf client cache requests k).filterMap (·.row?) := by
  induction requests generalizing k rows with
  | nil =>
    cases h
    rfl
  | cons r rest ih =>
    let v : Visit ω := { request := r, client, cache, before := k }
    cases hv : v.answer with
    | error f =>
      obtain ⟨hp, -⟩ := processRequests_of_error hv rest
      rw [hp] at h
      cases h
    | ok reading? =>
      obtain ⟨hp, hvs⟩ := processRequests_of_ok hv rest
      rw [hp] at h
      rw [hvs, List.filterMap_cons, Visit.row?, hv]
      cases hr : (v.after.processRequests client cache rest).1 with
      | error f =>
        rw [show v.after.processRequests v.client v.cache rest = _ from rfl, hr] at h
        cases h
      | ok more =>
        rw [show v.after.processRequests v.client v.cache rest = _ from rfl, hr] at h
        obtain rfl := Except.ok.inj h
        rw [← ih hr]
        cases reading? <;> rfl

section Calls

variable {s : Surroundings ω}

theorem Turn.rows_eq {t : Turn ω} {rows : List (List Reading)} (h : t.rows s = .ok rows) :
    rows = (t.visits s).filterMap (·.row?) := by
  cases hc : t.client? s with
  | error f =>
    rw [(Turn.eq_of_error hc).1] at h
    cases h
  | ok client? =>
    cases client? with
    | none =>
      obtain ⟨hrows, hvs, -⟩ := Turn.eq_of_none hc
      rw [hrows] at h
      obtain rfl := Except.ok.inj h
      rw [hvs]
      rfl
    | some client =>
      obtain ⟨f, -, hrows, -⟩ | ⟨bound, -, hrows, -, hvs⟩ := Turn.eq_of_some hc
      · rw [hrows] at h
        cases h
      · rw [hrows] at h
        rw [hvs]
        exact processRequests_rows h

/-- **The rows of a batch** are those of its requests in their turns. -/
theorem Call.rows_eq {c : Call ω} {rows : List (List Reading)} (h : c.rows s = .ok rows) :
    rows = (c.visits s).filterMap (·.row?) := by
  obtain ⟨parts, hparts, rfl⟩ := Call.rows_eq_ok_iff.1 h
  rw [Call.visits]
  clear h
  -- source by source
  generalize c.turns s = turns at hparts ⊢
  induction turns generalizing parts with
  | nil =>
    obtain rfl := List.map_eq_nil_iff.1 hparts.symm
    rfl
  | cons t turns ih =>
    cases parts with
    | nil => cases hparts
    | cons part parts =>
      obtain ⟨hpart, hrest⟩ := List.cons.inj hparts
      rw [List.flatten_cons, List.flatMap_cons, List.filterMap_append, ← Turn.rows_eq hpart]
      exact congrArg (part ++ ·) (ih _ hrest)

/-- A turn is one for requests of its source. -/
theorem Turn.request_mem {t : Turn ω} {v : Visit ω} (h : v ∈ t.visits s) :
    v.request ∈ t.requests := by
  cases hc : t.client? s with
  | error f =>
    rw [(Turn.eq_of_error hc).2.1] at h
    cases h
  | ok client? =>
    cases client? with
    | none =>
      rw [(Turn.eq_of_none hc).2.1] at h
      cases h
    | some client =>
      obtain ⟨f, -, -, hvs, -⟩ | ⟨bound, -, -, -, hvs⟩ := Turn.eq_of_some hc
      · rw [hvs] at h
        cases h
      · rw [hvs] at h
        exact (of_mem_visitsOf h).1

theorem Call.request_mem {c : Call ω} {v : Visit ω} (h : v ∈ c.visits s) :
    v.request ∈ c.batch := by
  obtain ⟨t, ht, hv⟩ := List.mem_flatMap.1 h
  have hrequest := Turn.request_mem hv
  rw [requests_of_mem_turnsOf ht] at hrequest
  exact (mem_requestsOf.1 hrequest).1

end Calls

end MetricIntake
