import MetricIntake.Proofs.Accounting
import MetricIntake.Proofs.Numerals
import MetricIntake.Proofs.Replay
import MetricIntake.Proofs.Scripted
import Mathlib.Data.List.Forall2

/-!
# What the rows of a batch are

`bySource` is the order in which a batch is worked off.  If a batch has rows, each request whose
source has a client has its turn in that order (`Call.map_request_visits`), and the rows are those
of the requests that succeed, one by one: `rows_follow_requests`.  `Visit.Yields` says what such a
row holds: a finite value, and a message just if the default value of the request stands in for what
its source has (`Visit.substitute?`).  Nothing but the order within each source and that in which
the sources first appear matters to a batch: `process_congr`.
-/

namespace MetricIntake

variable {ω : Type}

/-- The requests of a batch, source by source. -/
def bySource (batch : List Request) : List Request :=
  (batchSources batch).flatMap (requestsOf · batch)

/-! ### Default values that stand in -/

/-- The default value, if it stands in for an answer: for no sample, or for the value of a sample
whose source ran out of time. -/
def Request.substitute? (r : Request) : Option Sample → Option Double
  | none => r.defaultValue
  | some sample => if sample.isTimedOut then r.defaultValue else none

/-- The default value, if the source is asked and it stands in for the answer. -/
def Visit.substitute? (v : Visit ω) : Option Double :=
  match v.asks, v.reply.outcome with
  | true, .ok sample? => v.request.substitute? sample?
  | _, _ => none

/-- What a request goes on with is marked as a default value just if that stands in. -/
theorem settle_substitute {r : Request} {now : UtcTime} {sample? : Option Sample}
    {resolution : Resolution} (h : r.settle now sample? = some resolution) :
    (r.substitute? sample? = none ∧ resolution.isDefault = false) ∨
      ∃ x, r.substitute? sample? = some x ∧ r.defaultValue = some x ∧
        resolution.isDefault = true ∧ resolution.sample.value = CodeText.ofString x.plain := by
  unfold Request.settle at h
  split at h
  · cases h
  · rename_i x hdefault
    obtain rfl := Option.some.inj h
    exact .inr ⟨x, hdefault, hdefault, rfl, rfl⟩
  · rename_i sample x hdefault
    split at h
    · rename_i hout
      obtain rfl := Option.some.inj h
      exact .inr ⟨x, (if_pos hout).trans hdefault, hdefault, rfl, rfl⟩
    · rename_i hout
      obtain rfl := Option.some.inj h
      exact .inl ⟨if_neg hout, rfl⟩
  · rename_i sample hdefault
    obtain rfl := Option.some.inj h
    refine .inl ⟨?_, rfl⟩
    show (if sample.isTimedOut then r.defaultValue else none) = none
    rw [hdefault, ite_self]

/-! ### The reading of a sample -/

/-- A number that is read is finite. -/
theorem isFinite_of_readNumber {text : CodeText} {x : Double} (h : readNumber text = .ok x) :
    x.isFinite = true := by
  unfold readNumber at h
  simp only at h
  split at h
  · cases h
  · split at h
    · cases h
    · split at h
      · rename_i hfinite
        rwa [← Except.ok.inj h]
      · cases h

/-! ### The row of a request -/

/-- What a request has its row for.  The time is one in UTC, as all times are. -/
structure Visit.Yields (v : Visit ω) (reading : Reading) : Prop where
  /-- The reading is what the request returned. -/
  answer : v.answer = .ok (some reading)
  /-- The time is that of the sample that the request went on with. -/
  time : ∃ resolution raw, v.fate = .loaded resolution raw ∧
    readUtcTime resolution.sample.updatedAt = .ok reading.time
  unadjusted : reading.value = reading.rawValue
  finite : reading.value.isFinite = true
  /-- There is nothing to say of a value that the source gave. -/
  plain : v.substitute? = none → reading.messages = []
  /-- A default value is what its message says. -/
  substituted : ∀ x, v.substitute? = some x →
    v.request.defaultValue = some x ∧ reading.messages = [defaultMessage v.request.name x] ∧
      reading.value.units? = x.units?

namespace Visit

variable {v : Visit ω}

/-- The sample that a request goes on with is marked just if the default value stands in. -/
theorem substitute?_of_loaded {resolution : Resolution} {raw : Reading}
    (h : v.fate = .loaded resolution raw) :
    (v.substitute? = none ∧ resolution.isDefault = false) ∨
      ∃ x, v.substitute? = some x ∧ v.request.defaultValue = some x ∧
        resolution.isDefault = true ∧ resolution.sample.value = CodeText.ofString x.plain := by
  cases hasks : v.asks with
  | false =>
    have hnone : v.substitute? = none := by rw [substitute?, hasks]
    obtain ⟨f, hfate⟩ | hfate | ⟨sample, -, hfate⟩ := fate_of_not_asks hasks
    · rw [hfate] at h
      cases h
    · rw [hfate] at h
      cases h
    · rw [hfate] at h
      obtain ⟨rfl, -, -⟩ := fateOf_eq_loaded h
      exact .inl ⟨hnone, rfl⟩
  | true =>
    obtain ⟨-, hcached | ⟨-, sample?, hreply, hsettle⟩⟩ := fate_eq_loaded h
    · obtain ⟨hnone, -⟩ := asks_eq_true_iff.1 hasks
      rw [hnone] at hcached
      cases hcached.1
    · rw [substitute?, hasks, hreply]
      exact settle_substitute hsettle

/-- **What a request returns is what it has its row for.** -/
theorem yields_of_answer {reading : Reading} (h : v.answer = .ok (some reading)) :
    v.Yields reading := by
  obtain ⟨resolution, raw, hfate, rfl⟩ : ∃ resolution raw, v.fate = .loaded resolution raw ∧
      Intake.markDefault v.request resolution raw = reading := by
    rw [answer_eq] at h
    cases hfate : v.fate with
    | loaded resolution raw =>
      rw [hfate] at h
      exact ⟨resolution, raw, rfl, Option.some.inj (Except.ok.inj h)⟩
    | _ =>
      rw [hfate] at h
      cases h
  obtain ⟨-, hjudge, -⟩ := fateOf_eq_loaded (fate_eq_loaded hfate).1
  obtain ⟨htime, hvalue, -, hraw, hmessages⟩ := judge_eq_accepted hjudge
  have hfinite := isFinite_of_readNumber hvalue
  obtain ⟨hnone, hplain⟩ | ⟨x, hsome, hdefault, hmarked, htext⟩ := substitute?_of_loaded hfate
  · have hmark : Intake.markDefault v.request resolution raw = raw := by
      rw [Intake.markDefault, hplain]
    rw [hmark] at h ⊢
    refine ⟨h, ⟨resolution, raw, hfate, htime⟩, hraw.symm, hfinite, fun _ => hmessages, ?_⟩
    intro x hx
    rw [hnone] at hx
    cases hx
  · have hmark : Intake.markDefault v.request resolution raw =
        raw.withMessage (defaultMessage v.request.name x) := by
      rw [Intake.markDefault, hmarked, hdefault]
    rw [hmark] at h ⊢
    refine ⟨h, ⟨resolution, raw, hfate, htime⟩, hraw.symm, hfinite, ?_, ?_⟩
    · intro hnone
      rw [hsome] at hnone
      cases hnone
    · intro y hy
      obtain rfl := Option.some.inj (hsome.symm.trans hy)
      rw [htext] at hvalue
      refine ⟨hdefault, ?_, (finite_of_readNumber_plain hvalue).2.2⟩
      rw [Reading.withMessage, hmessages]
      rfl

end Visit

/-! ### The rows of a batch -/

/-- The requests of a call that succeed, in their turns. -/
def Call.loaded (s : Surroundings ω) (c : Call ω) : List (Visit ω) :=
  (c.visits s).filter (·.fate.outcome? = some .succeeded)

/-- The visits that have rows are those that succeed. -/
theorem forall₂_rows (vs : List (Visit ω)) :
    List.Forall₂ (fun v row => ∃ reading, row = [reading] ∧ Visit.Yields v reading)
      (vs.filter (·.fate.outcome? = some .succeeded)) (vs.filterMap (·.row?)) := by
  induction vs with
  | nil => exact .nil
  | cons v vs ih =>
    by_cases hv : v.fate.outcome? = some .succeeded
    · obtain ⟨reading, hanswer⟩ := Visit.outcome?_eq_succeeded_iff.1 hv
      have hrow : v.row? = some [reading] := by rw [Visit.row?, hanswer]
      rw [List.filter_cons, if_pos (decide_eq_true hv), List.filterMap_cons, hrow]
      exact .cons ⟨reading, rfl, Visit.yields_of_answer hanswer⟩ ih
    · have hrow : v.row? = none := by
        cases hr : v.row? with
        | none => rfl
        | some row =>
          rw [Visit.row?] at hr
          split at hr
          · rename_i reading hanswer
            exact absurd (Visit.outcome?_eq_succeeded_iff.2 ⟨reading, hanswer⟩) hv
          · cases hr
      have hnot : ¬decide (v.fate.outcome? = some .succeeded) = true :=
        fun hd => hv (of_decide_eq_true hd)
      rw [List.filter_cons, if_neg hnot, List.filterMap_cons, hrow]
      exact ih

section Calls

variable {s : Surroundings ω}

/-- If a batch has rows, each request whose source has a client has its turn, source by source. -/
theorem Call.map_request_visits {c : Call ω} {rows : List (List Reading)}
    (h : c.rows s = .ok rows) :
    (c.visits s).map (·.request) = (bySource c.batch).filter (·.source ∈ c.resolved s) := by
  rw [visits, bySource, List.map_flatMap, List.filter_flatMap, ← map_id_turns (s := s),
    List.flatMap_map]
  apply List.flatMap_congr
  intro t ht
  obtain ⟨part, hpart⟩ := rows_of_mem_turns h ht
  obtain ⟨-, hmap, -⟩ := Turn.eq_of_rows hpart
  rw [hmap, requests_of_mem_turnsOf ht]
  -- the requests of one source go together
  have hsource : ∀ r ∈ requestsOf t.id c.batch,
      decide (r.source ∈ c.resolved s) = decide (t.found s = true) := by
    intro r hr
    rw [(mem_requestsOf.1 hr).2]
    exact decide_eq_decide.2 (mem_resolved ht)
  rw [List.filter_congr hsource]
  cases t.found s with
  | true => exact (List.filter_eq_self.2 fun _ _ => rfl).symm
  | false => exact (List.filter_eq_nil_iff.2 fun _ _ => Bool.false_ne_true).symm

theorem processSources_congr {batch batch' : List Request}
    (h : ∀ id, requestsOf id batch = requestsOf id batch') (ids : List String) (k : Intake ω) :
    k.processSources s batch ids = k.processSources s batch' ids := by
  induction ids generalizing k with
  | nil => rfl
  | cons id ids ih =>
    rw [Intake.processSources, Intake.processSources, h id]
    dsimp only
    rw [ih]

/-- Batches with the same sources in the same order, and the same requests for each of them, are
processed alike. -/
theorem process_congr {batch batch' : List Request}
    (hsources : batchSources batch = batchSources batch')
    (h : ∀ id, requestsOf id batch = requestsOf id batch') (k : Intake ω) :
    k.process s batch = k.process s batch' := by
  rw [Intake.process, Intake.process, hsources, processSources_congr h]

end Calls

/-- **The rows of a batch.**  If a batch has rows, its requests had their turns source by source but
for those whose source has no client, and the rows are those of the requests that succeeded, in that
order and one for each.  A batch does nothing else if its requests are in another order in which the
sources first appear in the same order and each has the same requests. -/
theorem rows_follow_requests (s : Surroundings ω) :
    (∀ (c : Call ω) (rows : List (List Reading)), c.rows s = .ok rows →
      (c.visits s).map (·.request) = (bySource c.batch).filter (·.source ∈ c.resolved s) ∧
      ((c.loaded s).map (·.request)).Sublist (bySource c.batch) ∧
      List.Forall₂ (fun v row => ∃ reading, row = [reading] ∧ Visit.Yields v reading)
        (c.loaded s) rows) ∧
    ∀ (k : Intake ω) (batch batch' : List Request), batchSources batch = batchSources batch' →
      (∀ id, requestsOf id batch = requestsOf id batch') →
      k.process s batch = k.process s batch' := by
  refine ⟨fun c rows h => ?_, fun k batch batch' hsources hrequests =>
    process_congr hsources hrequests k⟩
  have hvisits := Call.map_request_visits h
  refine ⟨hvisits, ?_, ?_⟩
  · have hloaded : ((c.loaded s).map (·.request)).Sublist ((c.visits s).map (·.request)) :=
      List.filter_sublist.map _
    rw [hvisits] at hloaded
    exact hloaded.trans List.filter_sublist
  · rw [Call.rows_eq h]
    exact forall₂_rows (c.visits s)

/-- Sources that have a metric, run out of time for another and have no sample of a third; the
source `gone` cannot be built. -/
def patchy : Surroundings (String → Nat) :=
  .scripted fun id =>
    if id = "gone" then none
    else some fun _ name =>
      .plain <| .ok <|
        if name = "late" then some { storable with value := Sample.timeoutValue }
        else if name = "missing" then none
        else some storable

/-- Requests of three sources in turn. -/
def interleaved : List Request :=
  [⟨"a", "missing", some (.ofWhole 3), 0⟩, ⟨"gone", "load", none, 0⟩, ⟨"b", "load", none, 0⟩,
    ⟨"a", "late", some (.ofWhole (-5)), 1000⟩, ⟨"b", "missing", none, 0⟩,
    ⟨"a", "load", some .zero, 1000⟩]

/-- The same requests, one source after another. -/
def consecutive : List Request :=
  [⟨"a", "missing", some (.ofWhole 3), 0⟩, ⟨"a", "late", some (.ofWhole (-5)), 1000⟩,
    ⟨"a", "load", some .zero, 1000⟩, ⟨"gone", "load", none, 0⟩, ⟨"b", "load", none, 0⟩,
    ⟨"b", "missing", none, 0⟩]

theorem rows_of_interleaved :
    ∃ rows, (Call.mk interleaved .unused).rows patchy = .ok rows ∧
      rows.map (·.map (·.messages)) =
        [[["Default value provided for missing: 3"]], [["Default value provided for late: -5"]],
          [[]], [[]]] ∧
      List.Forall₂ (fun v row => ∃ reading, row = [reading] ∧ Visit.Yields v reading)
        ((Call.mk interleaved .unused).loaded patchy) rows ∧
      Intake.unused.process patchy interleaved = Intake.unused.process patchy consecutive := by
  have hmessages : ((Call.mk interleaved .unused).rows patchy).map (·.map (·.map (·.messages))) =
      .ok [[["Default value provided for missing: 3"]], [["Default value provided for late: -5"]],
        [[]], [[]]] := by
    decide +kernel
  obtain ⟨hrows, hprocess⟩ := rows_follow_requests patchy
  cases hok : (Call.mk interleaved .unused).rows patchy with
  | error f =>
    rw [hok] at hmessages
    cases hmessages
  | ok rows =>
    rw [hok] at hmessages
    refine ⟨rows, rfl, Except.ok.inj hmessages, (hrows _ rows hok).2.2, ?_⟩
    refine hprocess _ interleaved consecutive (by decide +kernel) fun id => ?_
    by_cases hid : id ∈ ["a", "b", "gone"]
    · revert id
      decide +kernel
    · have hne : "a" ≠ id ∧ "b" ≠ id ∧ "gone" ≠ id := by
        simpa [eq_comm] using hid
      simp [requestsOf, interleaved, consecutive, hne.1, hne.2.1, hne.2.2]

end MetricIntake
