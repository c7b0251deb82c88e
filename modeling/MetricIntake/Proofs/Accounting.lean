import MetricIntake.Proofs.Scripted
import Mathlib.Algebra.GroupWithZero.Nat

/-!
# Accounting

How the counts of a run come about.  `Turn.after_counts` and `Call.process_counts` say what the turn
of a source and a whole batch add to each count, whether or not anything raises.  `run_counts` puts
them together for the runs in which no batch raises.
-/

namespace MetricIntake

variable {ω : Type}

/-! ### What is counted -/

/-- The request is passed over: the cache has nothing for it and a shutdown was requested. -/
def Visit.skipped (v : Visit ω) : Bool :=
  match v.cached with
  | .ok none => v.before.stopping
  | _ => false

/-- The source has a client in its turn. -/
def Turn.found (s : Surroundings ω) (t : Turn ω) : Bool :=
  match t.client? s with
  | .ok (some _) => true
  | _ => false

/-- The source could not be built in its turn. -/
def Turn.missed (s : Surroundings ω) (t : Turn ω) : Bool :=
  match t.client? s with
  | .ok none => true
  | _ => false

/-- How many rows there are. -/
def countRows : Except Failure (List (List Reading)) → Nat
  | .ok rows => rows.length
  | .error _ => 0

namespace Call

variable (s : Surroundings ω) (c : Call ω)

/-- The sources of the batch that had a client in this call. -/
def resolved : List String := ((c.turns s).filter (·.found s)).map (·.id)

/-- The sources of the batch that had none. -/
def unresolved : List String := (batchSources c.batch).filter (· ∉ c.resolved s)

/-- How many requests of the batch had their turn and were not passed over. -/
def attended : Nat := (c.visits s).countP (!·.skipped)

/-- How many rows the batch returned. -/
def rowCount : Nat := countRows (c.rows s)

end Call

theorem Visit.skipped_eq_true_iff {v : Visit ω} : v.skipped = true ↔ v.fate = .skipped := by
  rw [fate_eq_skipped_iff, skipped]
  split
  · rename_i hc
    rw [hc]
    exact (and_iff_right rfl).symm
  · rename_i hc
    exact ⟨fun h => absurd h Bool.false_ne_true, fun h => absurd h.1 hc⟩

/-! ### The counts of a turn -/

theorem processRequests_counts (client : Client ω) (cache : Cache) (requests : List Request)
    (k : Intake ω) (o : Outcome) :
    (k.processRequests client cache requests).2.metrics.counts.get o =
      k.metrics.counts.get o +
        (visitsOf client cache requests k).countP (·.fate.outcome? = some o) := by
  induction requests generalizing k with
  | nil => rfl
  | cons r rest ih =>
    let v : Visit ω := { request := r, client, cache, before := k }
    have hv : v.after.metrics.counts.get o =
        k.metrics.counts.get o + if v.fate.outcome? = some o then 1 else 0 := v.after_counts o
    cases h : v.answer with
    | error f =>
      obtain ⟨hp, hvs⟩ := processRequests_of_error h rest
      rw [hvs, hp, List.countP_singleton, hv]
      simp only [decide_eq_true_eq]
    | ok reading? =>
      obtain ⟨hp, hvs⟩ := processRequests_of_ok h rest
      rw [hvs, hp, List.countP_cons]
      show (v.after.processRequests client cache rest).2.metrics.counts.get o =
        _ + (List.countP _ (visitsOf client cache rest v.after) + _)
      rw [ih v.after, hv]
      simp only [decide_eq_true_eq]
      omega

/-- If the requests of a source have rows, each of them had its turn, and there is a row for each
that succeeded. -/
theorem visitsOf_of_ok {client : Client ω} {cache : Cache} {requests : List Request}
    {k : Intake ω} {rows : List (List Reading)}
    (h : (k.processRequests client cache requests).1 = .ok rows) :
    (visitsOf client cache requests k).map (·.request) = requests ∧
      (∀ v ∈ visitsOf client cache requests k, ∃ reading?, v.answer = .ok reading?) ∧
      rows.length =
        (visitsOf client cache requests k).countP (·.fate.outcome? = some .succeeded) := by
  induction requests generalizing k rows with
  | nil =>
    cases h
    exact ⟨rfl, by simp [visitsOf], rfl⟩
  | cons r rest ih =>
    let v : Visit ω := { request := r, client, cache, before := k }
    cases hv : v.answer with
    | error f =>
      obtain ⟨hp, -⟩ := processRequests_of_error hv rest
      rw [hp] at h
      cases h
    | ok reading? =>
      obtain ⟨hp, hvs⟩ := processRequests_of_ok hv rest
      rw [hp] at h
      dsimp only at h
      cases hr : (v.after.processRequests client cache rest).1 with
      | error f =>
        rw [show v.after.processRequests v.client v.cache rest = _ from rfl, hr] at h
        cases h
      | ok more =>
        rw [hr] at h
        obtain rfl := Except.ok.inj h
        obtain ⟨hmap, hall, hlen⟩ := ih hr
        rw [hvs]
        refine ⟨?_, ?_, ?_⟩
        · rw [List.map_cons]
          exact congrArg (r :: ·) hmap
        · rintro w (_ | ⟨_, hw⟩)
          · exact ⟨reading?, hv⟩
          · exact hall w hw
        · -- a request has a row just if it succeeded
          have hsucceeded : v.fate.outcome? = some .succeeded ↔ reading?.isSome := by
            rw [Visit.outcome?_eq_succeeded_iff, hv]
            cases reading? <;> simp
          rw [List.length_append, hlen, List.countP_cons, Nat.add_comm]
          congr 1
          cases reading? <;> simp [hsucceeded]

section Turns

variable {s : Surroundings ω}

/-- What the turn of a source adds to a count, also if it raises. -/
theorem Turn.after_counts (t : Turn ω) (o : Outcome) :
    (t.after s).metrics.counts.get o =
      t.before.metrics.counts.get o + (t.visits s).countP (·.fate.outcome? = some o) +
        if t.missed s ∧ o = .failed then 1 else 0 := by
  cases hc : t.client? s with
  | error f =>
    obtain ⟨-, hvs, hafter⟩ := Turn.eq_of_error hc
    rw [hvs, hafter, Intake.resolve_metrics, missed, hc]
    simp
  | ok client? =>
    cases client? with
    | none =>
      obtain ⟨-, hvs, records, hafter⟩ := Turn.eq_of_none hc
      rw [hvs, hafter, missed, hc]
      show ((t.before.resolve s t.id).2.metrics.counts.add .failed).get o = _
      rw [Intake.resolve_metrics, Counts.get_add]
      simp
    | some client =>
      rw [missed, hc]
      obtain ⟨f, -, -, hvs, hafter⟩ | ⟨bound, -, -, hafter, hvs⟩ := Turn.eq_of_some hc
      · rw [hvs, hafter, Intake.cacheOf_metrics, Intake.resolve_metrics]
        simp
      · rw [hvs, hafter, processRequests_counts, Intake.cacheOf_metrics, Intake.resolve_metrics]
        simp

/-- A source that has rows either had a client, and then each of its requests had its turn, or
could not be built, and then it has no rows. -/
theorem Turn.eq_of_rows {t : Turn ω} {rows : List (List Reading)} (h : t.rows s = .ok rows) :
    t.found s = !t.missed s ∧
      ((t.visits s).map (·.request) = if t.found s then t.requests else []) ∧
      (∀ v ∈ t.visits s, ∃ reading?, v.answer = .ok reading?) ∧
      rows.length = (t.visits s).countP (·.fate.outcome? = some .succeeded) := by
  cases hc : t.client? s with
  | error f =>
    obtain ⟨hrows, -, -⟩ := Turn.eq_of_error hc
    rw [hrows] at h
    cases h
  | ok client? =>
    rw [found, missed, hc]
    cases client? with
    | none =>
      obtain ⟨hrows, hvs, -⟩ := Turn.eq_of_none hc
      rw [hrows] at h
      obtain rfl := Except.ok.inj h
      rw [hvs]
      exact ⟨rfl, rfl, fun v hv => absurd hv List.not_mem_nil, rfl⟩
    | some client =>
      obtain ⟨f, -, hrows, -⟩ | ⟨bound, -, hrows, -, hvs⟩ := Turn.eq_of_some hc
      · rw [hrows] at h
        cases h
      · rw [hrows] at h
        obtain ⟨hmap, hall, hlen⟩ := visitsOf_of_ok h
        rw [hvs]
        exact ⟨rfl, hmap, hall, hlen⟩

theorem turnsOf_counts (batch : List Request) (ids : List String) (k : Intake ω) (o : Outcome) :
    (k.processSources s batch ids).2.metrics.counts.get o =
      k.metrics.counts.get o +
        ((turnsOf s batch ids k).flatMap (·.visits s)).countP (·.fate.outcome? = some o) +
        if o = .failed then (turnsOf s batch ids k).countP (·.missed s) else 0 := by
  induction ids generalizing k with
  | nil => simp [Intake.processSources, turnsOf]
  | cons id ids ih =>
    obtain ⟨t, ht, rfl⟩ : ∃ t : Turn ω,
        { id, requests := requestsOf id batch, before := k } = t ∧ k = t.before := ⟨_, rfl, rfl⟩
    rw [processSources_cons, turnsOf, ht]
    dsimp only
    rw [ih, t.after_counts, List.flatMap_cons, List.countP_append, List.countP_cons]
    -- only the count of failures has a share for sources without a client
    by_cases ho : o = .failed
    · simp only [ho, and_true, if_true]
      omega
    · simp only [ho, and_false, if_false]
      omega

end Turns

/-! ### The counts of a call -/

namespace Call

variable {s : Surroundings ω}

/-- What a batch adds to a count, also if it raises. -/
theorem process_counts (c : Call ω) (o : Outcome) :
    (c.before.process s c.batch).2.metrics.counts.get o =
      c.before.metrics.counts.get o + (c.visits s).countP (·.fate.outcome? = some o) +
        if o = .failed then (c.turns s).countP (·.missed s) else 0 :=
  turnsOf_counts c.batch (batchSources c.batch) c.before o

theorem map_id_turns (c : Call ω) : (c.turns s).map (·.id) = batchSources c.batch :=
  map_id_turnsOf c.batch _ c.before

/-- If a batch has rows, each of its sources has. -/
theorem rows_of_mem_turns {c : Call ω} {rows : List (List Reading)} (h : c.rows s = .ok rows)
    {t : Turn ω} (ht : t ∈ c.turns s) : ∃ part, t.rows s = .ok part := by
  obtain ⟨parts, hparts, -⟩ := Call.rows_eq_ok_iff.1 h
  have hmem : t.rows s ∈ parts.map Except.ok := hparts ▸ List.mem_map_of_mem ht
  obtain ⟨part, -, hpart⟩ := List.mem_map.1 hmem
  exact ⟨part, hpart.symm⟩

/-- No two turns are of one source, so that a source had a client just if its turn had. -/
theorem mem_resolved {c : Call ω} {t : Turn ω} (ht : t ∈ c.turns s) :
    t.id ∈ c.resolved s ↔ t.found s = true := by
  rw [resolved, List.mem_map]
  constructor
  · rintro ⟨u, hu, hid⟩
    obtain ⟨hu, hfound⟩ := List.mem_filter.1 hu
    have hnodup : ((c.turns s).map (·.id)).Nodup := by
      rw [map_id_turns]
      exact nodup_batchSources _
    rwa [← List.inj_on_of_nodup_map hnodup hu ht hid]
  · intro hfound
    exact ⟨t, List.mem_filter.2 ⟨ht, hfound⟩, rfl⟩

/-- If a batch has rows, the sources that had no client are those that could not be built. -/
theorem length_unresolved {c : Call ω} {rows : List (List Reading)} (h : c.rows s = .ok rows) :
    (c.unresolved s).length = (c.turns s).countP (·.missed s) := by
  have hfilter : c.unresolved s = ((c.turns s).filter (·.missed s)).map (·.id) := by
    rw [unresolved, ← map_id_turns (s := s), List.filter_map]
    congr 1
    apply List.filter_congr
    intro t ht
    obtain ⟨part, hpart⟩ := rows_of_mem_turns h ht
    have hfound := (Turn.eq_of_rows hpart).1
    simp only [Function.comp_apply, mem_resolved ht, hfound]
    cases t.missed s <;> rfl
  rw [hfilter, List.length_map, List.countP_eq_length_filter]

/-- If a batch has rows, each request whose source had a client had its turn, just once. -/
theorem map_request_visits_perm {c : Call ω} {rows : List (List Reading)}
    (h : c.rows s = .ok rows) :
    ((c.visits s).map (·.request)).Perm (c.batch.filter (·.source ∈ c.resolved s)) := by
  -- the requests that had their turn are those of the batch whose source had a client, source by
  -- source
  have hvisits : (c.visits s).map (·.request) =
      (batchSources c.batch).flatMap
        (requestsOf · (c.batch.filter (·.source ∈ c.resolved s))) := by
    rw [visits, List.map_flatMap, ← map_id_turns (s := s), List.flatMap_map]
    apply List.flatMap_congr
    intro t ht
    obtain ⟨part, hpart⟩ := rows_of_mem_turns h ht
    obtain ⟨-, hmap, -⟩ := Turn.eq_of_rows hpart
    rw [hmap, requests_of_mem_turnsOf ht,
      requestsOf_filter t.id c.batch fun source => decide (source ∈ c.resolved s)]
    simp only [mem_resolved ht, decide_eq_true_eq]
  rw [hvisits]
  apply flatMap_requestsOf_perm (nodup_batchSources _)
  intro r hr
  exact mem_batchSources.2 ⟨r, (List.mem_filter.1 hr).1, rfl⟩

/-- If a batch has rows, there is one for each request that succeeded. -/
theorem length_of_rows {c : Call ω} {rows : List (List Reading)} (h : c.rows s = .ok rows) :
    rows.length = (c.visits s).countP (·.fate.outcome? = some .succeeded) := by
  obtain ⟨parts, hparts, rfl⟩ := Call.rows_eq_ok_iff.1 h
  -- the rows of a batch are those of its turns
  have hcounts : parts.map List.length = (c.turns s).map fun t => countRows (t.rows s) :=
    calc parts.map List.length = (parts.map Except.ok).map countRows := by
          rw [List.map_map]; rfl
      _ = (c.turns s).map fun t => countRows (t.rows s) := by rw [← hparts, List.map_map]; rfl
  rw [List.length_flatten, hcounts, visits, List.countP_flatMap]
  congr 1
  apply List.map_congr_left
  intro t ht
  obtain ⟨part, hpart⟩ := rows_of_mem_turns h ht
  obtain ⟨-, -, -, hlen⟩ := Turn.eq_of_rows hpart
  rw [hpart]
  exact hlen

/-- If a batch has rows, a request of it is counted unless it is passed over. -/
theorem isSome_outcome?_of_rows {c : Call ω} {rows : List (List Reading)}
    (h : c.rows s = .ok rows) {v : Visit ω} (hv : v ∈ c.visits s) :
    v.fate.outcome?.isSome = !v.skipped := by
  obtain ⟨t, ht, hvt⟩ := List.mem_flatMap.1 hv
  obtain ⟨part, hpart⟩ := rows_of_mem_turns h ht
  obtain ⟨-, -, hall, -⟩ := Turn.eq_of_rows hpart
  obtain ⟨reading?, hanswer⟩ := hall v hvt
  rw [Bool.eq_iff_iff, Option.isSome_iff_ne_none, Bool.not_eq_true', Ne, Visit.outcome?_eq_none_iff,
    ← Visit.skipped_eq_true_iff, ← Bool.not_eq_true, not_iff_not, or_iff_left]
  rintro ⟨f, hf⟩
  rw [hanswer] at hf
  cases hf

/-- Each request that is counted is counted as exactly one of the three outcomes. -/
theorem countP_isSome (vs : List (Visit ω)) :
    vs.countP (·.fate.outcome? = some .succeeded) + vs.countP (·.fate.outcome? = some .noData) +
        vs.countP (·.fate.outcome? = some .failed) =
      vs.countP (·.fate.outcome?.isSome) := by
  induction vs with
  | nil => rfl
  | cons v vs ih =>
    simp only [List.countP_cons]
    rcases v.fate.outcome? with _ | _ | _ | _ <;> simp <;> omega

/-- What a batch that has rows adds to the counts. -/
theorem process_total {c : Call ω} {rows : List (List Reading)} (h : c.rows s = .ok rows) :
    (c.before.process s c.batch).2.metrics.counts.total =
        c.before.metrics.counts.total + (c.attended s + (c.unresolved s).length) ∧
      (c.before.process s c.batch).2.metrics.counts.succeeded =
        c.before.metrics.counts.succeeded + c.rowCount s := by
  have hs := c.process_counts (s := s) .succeeded
  have hn := c.process_counts (s := s) .noData
  have hf := c.process_counts (s := s) .failed
  have hattended : c.attended s = (c.visits s).countP (·.fate.outcome?.isSome) := by
    apply List.countP_congr
    intro v hv
    rw [isSome_outcome?_of_rows h hv]
  rw [if_neg (by decide)] at hs hn
  rw [if_pos rfl, ← length_unresolved h] at hf
  have hsum := countP_isSome (c.visits s)
  refine ⟨?_, ?_⟩
  · simp only [Counts.get, Counts.total] at hs hn hf ⊢
    omega
  · rw [rowCount, h]
    show _ = c.before.metrics.counts.get .succeeded + rows.length
    rw [length_of_rows h]
    exact hs

end Call

/-! ### The counts of a run -/

/-- A visit grows the total by one if it is counted, and else not at all. -/
theorem Visit.after_total (v : Visit ω) :
    v.after.metrics.counts.total =
      v.before.metrics.counts.total + if v.fate.outcome?.isSome then 1 else 0 := by
  have hs := v.after_counts .succeeded
  have hn := v.after_counts .noData
  have hf := v.after_counts .failed
  simp only [Counts.get] at hs hn hf
  simp only [Counts.total, hs, hn, hf]
  rcases v.fate.outcome? with _ | _ | _ | _ <;> simp <;> omega

/-- What each batch of a run adds to the counts is added up. -/
theorem run_totals {s : Surroundings ω} {commands : List (Command ω)} {k : Intake ω}
    (hrows : ∀ c ∈ calls s commands k, ∃ rows, c.rows s = .ok rows) :
    (k.run s commands).metrics.counts.total =
        k.metrics.counts.total +
          ((calls s commands k).map fun c => c.attended s + (c.unresolved s).length).sum ∧
      (k.run s commands).metrics.counts.succeeded =
        k.metrics.counts.succeeded + ((calls s commands k).map (·.rowCount s)).sum := by
  induction commands generalizing k with
  | nil => exact ⟨rfl, rfl⟩
  | cons command rest ih =>
    cases command with
    | process batch =>
      let c : Call ω := { batch, before := k }
      have hcalls : calls s (.process batch :: rest) k =
          c :: calls s rest (k.process s batch).2 := rfl
      rw [hcalls] at hrows ⊢
      obtain ⟨rows, hc⟩ := hrows c List.mem_cons_self
      have htotal : (k.process s batch).2.metrics.counts.total =
          k.metrics.counts.total + (c.attended s + (c.unresolved s).length) :=
        (Call.process_total hc).1
      have hsucceeded : (k.process s batch).2.metrics.counts.succeeded =
          k.metrics.counts.succeeded + c.rowCount s :=
        (Call.process_total hc).2
      obtain ⟨ihtotal, ihsucceeded⟩ := ih fun c' hc' => hrows c' (List.mem_cons_of_mem _ hc')
      rw [htotal, Nat.add_assoc] at ihtotal
      rw [hsucceeded, Nat.add_assoc] at ihsucceeded
      exact ⟨ihtotal, ihsucceeded⟩
    -- whatever else is done leaves the counts as they are
    | reset id? => exact ih hrows
    | trigger => exact ih hrows
    | elapse i => exact ih hrows

/-- **Every request is counted once**: in a run in which no batch raises, the counts together grow
by the number of requests whose source had a client and that were not passed over, and by one more
for each source of a batch that had none.  As many requests succeeded as there are rows.  The
requests that had their turn are those whose source had a client, each of them once, and each of
them grows the total by one unless it is passed over. -/
theorem run_counts (s : Surroundings ω) (commands : List (Command ω)) (k : Intake ω)
    (hrows : ∀ c ∈ calls s commands k, ∃ rows, c.rows s = .ok rows) :
    (k.run s commands).metrics.counts.total =
        k.metrics.counts.total +
          ((calls s commands k).map fun c => c.attended s + (c.unresolved s).length).sum ∧
      (k.run s commands).metrics.counts.succeeded =
        k.metrics.counts.succeeded + ((calls s commands k).map (·.rowCount s)).sum ∧
      ∀ c ∈ calls s commands k,
        ((c.visits s).map (·.request)).Perm (c.batch.filter (·.source ∈ c.resolved s)) ∧
          ∀ v ∈ c.visits s,
            v.after.metrics.counts.total =
              v.before.metrics.counts.total + if v.skipped then 0 else 1 := by
  obtain ⟨htotal, hsucceeded⟩ := run_totals hrows
  refine ⟨htotal, hsucceeded, ?_⟩
  intro c hc
  obtain ⟨rows, h⟩ := hrows c hc
  refine ⟨Call.map_request_visits_perm h, ?_⟩
  intro v hv
  rw [v.after_total, Call.isSome_outcome?_of_rows h hv]
  cases v.skipped <;> rfl

/-- A source that has a sample of each metric until it is asked for the last one, which ends in a
shutdown. -/
def Script.untilLast : Script := fun _ name =>
  if name = "last" then { Reply.plain (.ok none) with stops := true }
  else .plain (.ok (some { name := "m", value := "1", updatedAt := "2026-01-20T10:15:00Z" }))

/-- One source that there is, and no others. -/
def interruptible : Surroundings (String → Nat) :=
  .scripted fun id => if id = "a" then some .untilLast else none

/-- A batch with a request for a source that there is not, and one after a shutdown. -/
def interrupted : List (Command (String → Nat)) :=
  [.process [⟨"a", "m", none, 0⟩, ⟨"b", "m", none, 0⟩, ⟨"a", "last", none, 0⟩,
    ⟨"a", "m", none, 0⟩]]

/-- Four requests of which three are counted, one of them for a source that there is not. -/
theorem run_counts_interrupted :
    (∀ c ∈ calls interruptible interrupted .unused, ∃ rows, c.rows interruptible = .ok rows) ∧
      (Intake.unused.run interruptible interrupted).metrics.counts.total = 3 ∧
      (Intake.unused.run interruptible interrupted).metrics.counts.succeeded = 1 := by
  have hok : ∀ c ∈ calls interruptible interrupted .unused,
      (c.rows interruptible).toOption.isSome := by
    decide +kernel
  have hrows : ∀ c ∈ calls interruptible interrupted .unused,
      ∃ rows, c.rows interruptible = .ok rows := by
    intro c hc
    rcases h : c.rows interruptible with f | rows
    · have := hok c hc
      rw [h] at this
      cases this
    · exact ⟨rows, rfl⟩
  obtain ⟨htotal, hsucceeded, -⟩ := run_counts interruptible interrupted .unused hrows
  refine ⟨hrows, ?_, ?_⟩
  · rw [htotal]
    decide +kernel
  · rw [hsucceeded]
    decide +kernel

end MetricIntake
