import MetricIntake.Proofs.Run

/-!
# What is said about sources that raise

`Intake.Says` is what is said from one intake to another.  The record of a source that raised is
said at the end of a batch only: whatever is said before, unless a source says it, is
`LogRecord.Expected` (`says_call`).  Nor is it a record of a summary: it is `LogRecord.Routine`
(`says_routine`).
-/

namespace MetricIntake

variable {ω : Type}

/-! ### Records one after another -/

/-- From one intake to the other only such records are added. -/
def Intake.Says (p : LogRecord → Prop) (k k' : Intake ω) : Prop :=
  ∃ said, k'.records = k.records ++ said ∧ ∀ r ∈ said, p r

namespace Intake.Says

variable {p q : LogRecord → Prop} {k k' k'' : Intake ω}

theorem of_eq (h : k'.records = k.records) : k.Says p k' :=
  ⟨[], by rw [h, List.append_nil], fun _ hr => absurd hr List.not_mem_nil⟩

theorem trans (h : k.Says p k') (h' : k'.Says p k'') : k.Says p k'' := by
  obtain ⟨said, hsaid, hall⟩ := h
  obtain ⟨said', hsaid', hall'⟩ := h'
  refine ⟨said ++ said', by rw [hsaid', hsaid, List.append_assoc], ?_⟩
  intro r hr
  rcases List.mem_append.1 hr with hr | hr
  · exact hall r hr
  · exact hall' r hr

theorem mono (h : k.Says p k') (hpq : ∀ r, p r → q r) : k.Says q k' := by
  obtain ⟨said, hsaid, hall⟩ := h
  exact ⟨said, hsaid, fun r hr => hpq r (hall r hr)⟩

theorem say {records : List LogRecord} (h : ∀ r ∈ records, p r) : k.Says p (k.say records) :=
  ⟨records, rfl, h⟩

end Intake.Says

/-! ### Records of the single steps -/

/-- The record is not that of a source that raised. -/
def LogRecord.Expected (r : LogRecord) : Prop := ∀ id, r ≠ Intake.unexpectedRecord id

/-- The record is neither that of a source that raised nor one of a summary, since what is said of
single outcomes matters less. -/
structure LogRecord.Routine (r : LogRecord) : Prop where
  expected : r.Expected
  debug : r.part = .metrics → r.level = .debug

namespace LogRecord

/-- Only what is said about whole batches can be the record of a source that raised, and only what
is said about metrics one of a summary. -/
theorem routine_of_part {r : LogRecord} (h : r.part ≠ .batch) (h' : r.part ≠ .metrics) :
    r.Routine := by
  refine ⟨?_, fun hmetrics => absurd hmetrics h'⟩
  rintro id rfl
  exact h rfl

theorem routine_outcomeRecord (m : Metrics) (o : Outcome) : (m.outcomeRecord o).Routine := by
  refine ⟨?_, fun _ => rfl⟩
  intro id h
  exact LogLevel.noConfusion (congrArg LogRecord.level h)

theorem routine_loadedRecord (r : Request) (source : String) :
    (Intake.loadedRecord r source).Routine := by
  refine ⟨?_, Part.noConfusion⟩
  intro id h
  exact LogLevel.noConfusion (congrArg LogRecord.level h)

/-- The two texts differ in their first letters. -/
theorem routine_skippedRecord (id : String) (count : Nat) :
    (Intake.skippedRecord id count).Routine := by
  refine ⟨?_, Part.noConfusion⟩
  intro id' h
  have hhead := congrArg (fun r : LogRecord => r.text.toList.head?) h
  simp [Intake.skippedRecord, Intake.unexpectedRecord] at hhead

end LogRecord

namespace Intake

variable {k : Intake ω}

/-- One record that is said neither about whole batches nor about metrics. -/
theorem Says.single {k' : Intake ω} {r : LogRecord} (hbatch : r.part ≠ .batch)
    (hmetrics : r.part ≠ .metrics) (h : k'.records = k.records ++ [r]) :
    k.Says LogRecord.Routine k' :=
  ⟨[r], h, List.forall_mem_singleton.2 (LogRecord.routine_of_part hbatch hmetrics)⟩

theorem says_count (k : Intake ω) (o : Outcome) : k.Says LogRecord.Routine (k.count o) :=
  ⟨[k.metrics.outcomeRecord o], rfl,
    List.forall_mem_singleton.2 (LogRecord.routine_outcomeRecord k.metrics o)⟩

theorem says_resolve (s : Surroundings ω) (id : String) (k : Intake ω) :
    k.Says LogRecord.Routine (k.resolve s id).2 := by
  unfold resolve
  split
  · exact .of_eq rfl
  · dsimp only
    split
    · exact .single Part.noConfusion Part.noConfusion rfl
    · exact .of_eq rfl
    · exact .single Part.noConfusion Part.noConfusion rfl

theorem says_cacheOf (s : Surroundings ω) (client : Client ω) (k : Intake ω) :
    k.Says LogRecord.Routine (k.cacheOf s client).2 := by
  unfold cacheOf
  split
  · exact .of_eq rfl
  · dsimp only
    split <;> exact .of_eq rfl

theorem says_readCache (cache : Cache) (key : String) (k : Intake ω) :
    k.Says LogRecord.Routine (k.readCache cache key).2 := by
  unfold readCache
  split
  · rename_i found _
    cases found with
    | found sample => exact .of_eq (List.append_nil _)
    | absent => exact .of_eq (List.append_nil _)
    | unreadable => exact .single Part.noConfusion Part.noConfusion rfl
    | failed message => exact .single Part.noConfusion Part.noConfusion rfl
  · exact .of_eq rfl

theorem says_writeCache (cache : Cache) (key : String) (sample : Sample) (ttl : Nat)
    (k : Intake ω) : k.Says LogRecord.Routine (k.writeCache cache key sample ttl).2 := by
  unfold writeCache Cache.keep
  by_cases httl : (ttl : Int) ≤ 0
  · rw [if_pos httl]
    exact .of_eq (List.append_nil _)
  · rw [if_neg httl]
    cases sample.halves? with
    | some halves => exact .of_eq rfl
    | none =>
      cases k.store.writeFailure with
      | some message => exact .single Part.noConfusion Part.noConfusion rfl
      | none => exact .of_eq (List.append_nil _)

/-- While a source is asked, it may say anything. -/
theorem says_fetch (client : Client ω) (name : String) (k : Intake ω) :
    k.Says (fun r => r.Routine ∨ r ∈ (k.replyOf client name).records)
      (k.fetch client name).2 := by
  refine ⟨(k.replyOf client name).records ++
    if (k.replyOf client name).stops then (triggerFlag k.stopping).2 else [], ?_, ?_⟩
  · unfold fetch receive
    show Intake.records (if (k.replyOf client name).stops = true then _ else _) = _
    split
    · simp [trigger, say, emit, Clock.read, replyOf]
    · simp [say, emit, Clock.read, replyOf]
  · intro r hr
    rcases List.mem_append.1 hr with hr | hr
    · exact .inr hr
    · left
      split at hr
      · unfold triggerFlag at hr
        split at hr
        · cases hr
        · rw [List.mem_singleton.1 hr]
          exact LogRecord.routine_of_part Part.noConfusion Part.noConfusion
      · cases hr

theorem says_settle (r : Request) (source : String) (answer : Option Sample) (k : Intake ω) :
    k.Says LogRecord.Routine (k.settle r source answer).2 := by
  unfold settle
  split
  · exact .trans (.single Part.noConfusion Part.noConfusion rfl) (says_count _ .noData)
  · dsimp only
    split
    · exact .single Part.noConfusion Part.noConfusion rfl
    · exact .of_eq rfl

theorem says_readSample (sample : Sample) (source : String) (k : Intake ω) :
    k.Says LogRecord.Routine (k.readSample sample source).2 := by
  unfold readSample
  split
  · exact .of_eq rfl
  · exact .trans (.single Part.noConfusion Part.noConfusion rfl) (says_count _ .noData)
  · exact .of_eq rfl

theorem says_finish (r : Request) (client : Client ω) (cache : Cache) (resolution : Resolution)
    (k : Intake ω) : k.Says LogRecord.Routine (k.finish r client cache resolution).2 := by
  have hloaded (m : Intake ω) : m.Says LogRecord.Routine
      ((m.count .succeeded).say [loadedRecord r client.source.id]) :=
    .trans (says_count m .succeeded)
      (.say (List.forall_mem_singleton.2 (LogRecord.routine_loadedRecord r _)))
  have hread := says_readSample resolution.sample client.source.id k
  unfold finish
  generalize k.readSample resolution.sample client.source.id = read at hread ⊢
  obtain ⟨f | _ | reading, k'⟩ := read
  · exact hread
  · exact hread
  · dsimp only at hread ⊢
    by_cases hcache : resolution.shouldCache = true
    · rw [if_pos hcache]
      have hwrite := says_writeCache cache r.cacheKey resolution.sample r.cacheMillis k'
      generalize k'.writeCache cache r.cacheKey resolution.sample r.cacheMillis = written
        at hwrite ⊢
      obtain ⟨f | _, k''⟩ := written
      · exact hread.trans hwrite
      · exact (hread.trans hwrite).trans (hloaded k'')
    · rw [if_neg hcache]
      exact hread.trans (hloaded k')

end Intake

/-! ### Records of a request and of a batch -/

/-- A source that is asked for the request says this. -/
def Visit.Quotes (v : Visit ω) (r : LogRecord) : Prop := v.asks = true ∧ r ∈ v.reply.records

/-- What is said about a request is routine, unless its source says it. -/
theorem says_visit (v : Visit ω) :
    v.before.Says (fun r => r.Routine ∨ v.Quotes r) v.after := by
  have hlift {k k' : Intake ω} (h : k.Says LogRecord.Routine k') :
      k.Says (fun r => r.Routine ∨ v.Quotes r) k' :=
    h.mono fun r hr => .inl hr
  obtain ⟨records, hread⟩ := v.readCache_eq
  have hcache := v.before.says_readCache v.cache v.request.cacheKey
  rw [hread] at hcache
  unfold Visit.after Intake.processRequest Intake.resolveSample
  rw [hread]
  cases hc : v.cached with
  | error f => exact hlift hcache
  | ok cached? =>
    cases cached? with
    | some sample =>
      exact hlift (hcache.trans (Intake.says_finish _ _ _ _ _))
    | none =>
      dsimp only
      by_cases hs : (v.before.say records).stopping = true
      · rw [if_pos hs]
        exact hlift hcache
      · rw [if_neg hs]
        have hasks : v.asks = true := Visit.asks_eq_true_iff.2 ⟨hc, Bool.eq_false_iff.2 hs⟩
        have hfetch : (v.before.say records).Says (fun r => r.Routine ∨ v.Quotes r)
            ((v.before.say records).fetch v.client v.request.name).2 :=
          (Intake.says_fetch v.client v.request.name _).mono fun r hr =>
            hr.imp_right fun hr => ⟨hasks, hr⟩
        have hasked := (hlift hcache).trans hfetch
        generalize (v.before.say records).fetch v.client v.request.name = fetched at hasked ⊢
        obtain ⟨(e | f) | answer, k⟩ := fetched
        · exact hasked.trans (hlift (.trans (.single Part.noConfusion Part.noConfusion rfl)
            (Intake.says_count _ .failed)))
        · exact hasked
        · have hsettle := Intake.says_settle v.request v.client.source.id answer k
          dsimp only at hasked ⊢
          generalize k.settle v.request v.client.source.id answer = settled at hsettle ⊢
          obtain ⟨_ | resolution, k'⟩ := settled
          · exact hasked.trans (hlift hsettle)
          · exact hasked.trans (hlift (hsettle.trans (Intake.says_finish _ _ _ _ _)))

section Batch

variable {s : Surroundings ω}

/-- How many requests a source without a client has is said. -/
theorem Turn.after_of_none {t : Turn ω} (h : t.client? s = .ok none) :
    t.after s = ((t.before.resolve s t.id).2.say
      [Intake.skippedRecord t.id t.requests.length]).count .failed := by
  have hresolve : t.before.resolve s t.id = (.ok none, (t.before.resolve s t.id).2) :=
    Prod.ext h rfl
  rw [Turn.after, Intake.processSource, hresolve]

theorem says_processRequests (client : Client ω) (cache : Cache) (requests : List Request)
    (k : Intake ω) :
    k.Says (fun r => r.Routine ∨ ∃ v ∈ visitsOf client cache requests k, v.Quotes r)
      (k.processRequests client cache requests).2 := by
  induction requests generalizing k with
  | nil => exact .of_eq rfl
  | cons r rest ih =>
    let v : Visit ω := { request := r, client, cache, before := k }
    cases hv : v.answer with
    | error f =>
      obtain ⟨hp, hvs⟩ := processRequests_of_error hv rest
      rw [hp, hvs]
      exact (says_visit v).mono fun r hr =>
        hr.imp_right fun hr => ⟨v, List.mem_singleton_self v, hr⟩
    | ok reading? =>
      obtain ⟨hp, hvs⟩ := processRequests_of_ok hv rest
      rw [hp, hvs]
      refine .trans ((says_visit v).mono ?_) ((ih v.after).mono ?_)
      · exact fun r hr => hr.imp_right fun hr => ⟨v, List.mem_cons_self, hr⟩
      · exact fun r hr => hr.imp_right fun ⟨w, hw, hr⟩ => ⟨w, List.mem_cons_of_mem v hw, hr⟩

theorem says_turn (t : Turn ω) :
    t.before.Says (fun r => r.Routine ∨ ∃ v ∈ t.visits s, v.Quotes r) (t.after s) := by
  have hresolve := Intake.says_resolve s t.id t.before
  cases hc : t.client? s with
  | error f =>
    obtain ⟨-, -, hafter⟩ := Turn.eq_of_error hc
    rw [hafter]
    exact hresolve.mono fun r hr => .inl hr
  | ok client? =>
    cases client? with
    | none =>
      rw [Turn.after_of_none hc]
      have hskipped : ∀ r ∈ [Intake.skippedRecord t.id t.requests.length], r.Routine :=
        List.forall_mem_singleton.2 (LogRecord.routine_skippedRecord _ _)
      exact ((hresolve.trans (.say hskipped)).trans (Intake.says_count _ .failed)).mono
        fun r hr => .inl hr
    | some client =>
      have hconnect := hresolve.trans (Intake.says_cacheOf s client _)
      obtain ⟨f, -, -, -, hafter⟩ | ⟨bound, -, -, hafter, hvs⟩ := Turn.eq_of_some hc
      · rw [hafter]
        exact hconnect.mono fun r hr => .inl hr
      · rw [hafter, hvs]
        exact (hconnect.mono fun r hr => .inl hr).trans (says_processRequests _ _ _ _)

theorem says_processSources (batch : List Request) (ids : List String) (k : Intake ω) :
    k.Says (fun r => r.Routine ∨ ∃ v ∈ (turnsOf s batch ids k).flatMap (·.visits s), v.Quotes r)
      (k.processSources s batch ids).2 := by
  induction ids generalizing k with
  | nil => exact .of_eq rfl
  | cons id ids ih =>
    let t : Turn ω := { id, requests := requestsOf id batch, before := k }
    rw [processSources_cons, turnsOf, List.flatMap_cons]
    refine .trans ((says_turn t).mono ?_) ((ih (t.after s)).mono ?_)
    · exact fun r => Or.imp_right (Exists.imp fun v => And.imp_left (List.mem_append_left _))
    · exact fun r => Or.imp_right (Exists.imp fun v => And.imp_left (List.mem_append_right _))

/-- The source raises in its turn. -/
def Turn.raises (s : Surroundings ω) (t : Turn ω) : Bool :=
  match t.rows s with
  | .ok _ => false
  | .error _ => true

/-- A batch ends with one record for each source that raised.  All records before are routine,
unless a source says them. -/
theorem says_routine (c : Call ω) :
    ∃ said, (c.before.process s c.batch).2.records =
        c.before.records ++ said ++
          ((c.turns s).filter (·.raises s)).map (Intake.unexpectedRecord ·.id) ∧
      ∀ r ∈ said, r.Routine ∨ ∃ v ∈ c.visits s, v.Quotes r := by
  obtain ⟨said, hsaid, hall⟩ :=
    says_processSources (s := s) c.batch (batchSources c.batch) c.before
  refine ⟨said, ?_, hall⟩
  rw [← hsaid]
  show _ ++ Intake.failureRecords (c.before.processSources s c.batch (batchSources c.batch)).1 = _
  rw [processSources_fst, Intake.failureRecords, List.filterMap_map, ← List.filterMap_eq_filter,
    List.map_filterMap]
  congr 1
  apply List.filterMap_congr
  intro t _
  rw [Function.comp_apply]
  cases hrows : t.rows s with
  | ok rows => simp [Turn.raises, hrows, Option.guard]
  | error f => simp [Turn.raises, hrows, Option.guard]

end Batch

end MetricIntake
