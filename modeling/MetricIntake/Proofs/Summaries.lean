import MetricIntake.Proofs.Accounting
import MetricIntake.Proofs.Bindings
import MetricIntake.Proofs.Said
import MetricIntake.Settings.Basic

/-!
# Summaries

What a summary says of a run.  Its counts are the sums of what the batches add (`run_counts_sum`).
It has a record for each source that was ever asked (`Trail.mem_timerNames`), each of them once and
in the order of their names (`Metrics.timerNames_sorted`).  No record of a batch can be taken for
one of a summary if no source says anything about metrics: `process_says_no_summary`.
-/

namespace MetricIntake

variable {ω : Type}

/-! ### Timers -/

/-- A value under a new name is the last one, and the others keep their places. -/
theorem Named.map_fst_put {κ α : Type} [DecidableEq κ] (name : κ) (value : α)
    (entries : List (κ × α)) :
    (put name value entries).map Prod.fst =
      if name ∈ entries.map Prod.fst then entries.map Prod.fst
      else entries.map Prod.fst ++ [name] := by
  induction entries with
  | nil => rfl
  | cons head rest ih =>
    obtain ⟨n, v⟩ := head
    rw [put]
    by_cases hn : n = name
    · subst hn
      simp
    · rw [if_neg hn, List.map_cons, ih]
      by_cases hrest : name ∈ rest.map Prod.fst
      · simp [hrest]
      · simp [hrest, Ne.symm hn]

namespace Metrics

/-- The timers that were used, in the order of first use. -/
def used (m : Metrics) : List String := m.timers.map (·.1)

theorem used_record (m : Metrics) (timer : String) (millis : Double) :
    (m.record timer millis).used =
      if timer ∈ m.used then m.used else m.used ++ [timer] :=
  Named.map_fst_put timer _ m.timers

theorem mem_used_record {m : Metrics} {timer other : String} {millis : Double} :
    other ∈ (m.record timer millis).used ↔ other ∈ m.used ∨ timer = other := by
  rw [used_record]
  split
  · rename_i h
    refine ⟨Or.inl, ?_⟩
    rintro (hother | rfl)
    · exact hother
    · exact h
  · rw [List.mem_append, List.mem_singleton, eq_comm]

theorem nodup_used_record {m : Metrics} (h : m.used.Nodup) (timer : String) (millis : Double) :
    (m.record timer millis).used.Nodup := by
  rw [used_record]
  split
  · exact h
  · rename_i hnew
    rw [List.nodup_append]
    refine ⟨h, List.nodup_singleton timer, ?_⟩
    intro other hother timer' htimer' heq
    rw [List.mem_singleton.1 htimer'] at heq
    exact hnew (heq ▸ hother)

theorem mem_timerNames {m : Metrics} {timer : String} : timer ∈ m.timerNames ↔ timer ∈ m.used :=
  List.mem_mergeSort

/-- **Each timer has its place in a summary once**, in the order of the names. -/
theorem timerNames_sorted {m : Metrics} (h : m.used.Nodup) : m.timerNames.Pairwise (· < ·) := by
  have hsorted : m.timerNames.Pairwise fun a b => (!decide (b < a)) = true := by
    refine List.pairwise_mergeSort ?_ ?_ m.used
    · intro a b c hab hbc
      simp only [Bool.not_eq_true', decide_eq_false_iff_not, String.not_lt] at hab hbc ⊢
      exact String.le_trans hab hbc
    · intro a b
      simp only [Bool.or_eq_true, Bool.not_eq_true', decide_eq_false_iff_not, String.not_lt]
      exact String.le_total a b
  have hnodup : m.timerNames.Nodup := (List.mergeSort_perm m.used _).nodup_iff.2 h
  refine (hsorted.and hnodup).imp ?_
  rintro a b ⟨hle, hne⟩
  simp only [Bool.not_eq_true', decide_eq_false_iff_not] at hle
  exact Std.lt_of_le_of_ne (String.not_lt.1 hle) hne

end Metrics

/-- The timer of the source of a request. -/
def Visit.timer (v : Visit ω) : String := Intake.timerName v.client.source.id

theorem Visit.after_used (v : Visit ω) :
    (∃ millis, v.asks = true ∧
      v.after.metrics.used = (v.before.metrics.record v.timer millis).used) ∨
    (v.asks = false ∧ v.after.metrics.used = v.before.metrics.used) := by
  obtain ⟨millis, htimers⟩ := v.after_timers
  cases hasks : v.asks with
  | true =>
    rw [hasks, if_pos rfl] at htimers
    exact .inl ⟨millis, rfl, congrArg (List.map Prod.fst) htimers⟩
  | false =>
    rw [hasks, if_neg Bool.false_ne_true] at htimers
    exact .inr ⟨rfl, congrArg (List.map Prod.fst) htimers⟩

section Trails

variable {s : Surroundings ω} {k k' m : Intake ω} {vs : List (Visit ω)}

/-- Between visits a failure is counted at most. -/
theorem Step.metrics_eq (h : Step s k k') :
    k'.metrics = k.metrics ∨ k'.metrics = k.metrics.add .failed := by
  cases h with
  | say records => exact .inl rfl
  | resolve id => exact .inl (Intake.resolve_metrics ..)
  | connect hclient => exact .inl (Intake.cacheOf_metrics ..)
  | miss => exact .inr rfl
  | reset id? => exact .inl rfl
  | trigger => exact .inl rfl
  | elapse i => exact .inl rfl

/-- The name under which metrics are reported stays. -/
theorem Step.meter_eq (h : Step s k k') : k'.metrics.meter = k.metrics.meter := by
  rcases h.metrics_eq with h | h <;> rw [h]
  rfl

/-- Only visits use timers. -/
theorem Step.timers_eq (h : Step s k k') : k'.metrics.timers = k.metrics.timers := by
  rcases h.metrics_eq with h | h <;> rw [h]
  rfl

theorem Step.used_eq (h : Step s k k') : k'.metrics.used = k.metrics.used :=
  congrArg (List.map Prod.fst) h.timers_eq

/-- No timer is there twice. -/
theorem Trail.nodup_used (h : Trail s k vs m) (hk : k.metrics.used.Nodup) :
    m.metrics.used.Nodup := by
  induction h with
  | nil k => exact hk
  | step hstep _ ih => exact ih (by rwa [hstep.used_eq])
  | @visit v m vs _ _ ih =>
    refine ih ?_
    obtain ⟨millis, -, hused⟩ | ⟨-, hused⟩ := v.after_used
    · rw [hused]
      exact Metrics.nodup_used_record hk _ _
    · rwa [hused]

/-- **A summary has the timers of the sources that were asked**, besides those that there were. -/
theorem Trail.mem_timerNames (h : Trail s k vs m) (timer : String) :
    timer ∈ m.metrics.timerNames ↔
      timer ∈ k.metrics.timerNames ∨ ∃ v ∈ vs, v.asks = true ∧ v.timer = timer := by
  simp only [Metrics.mem_timerNames]
  induction h with
  | nil k => simp
  | step hstep _ ih => rw [ih, hstep.used_eq]
  | @visit v m vs _ _ ih =>
    rw [ih, List.exists_mem_cons_iff]
    obtain ⟨millis, hasks, hused⟩ | ⟨hasks, hused⟩ := v.after_used
    · rw [hused, Metrics.mem_used_record, or_assoc, hasks]
      simp
    · rw [hused, hasks]
      simp

end Trails

/-! ### Counts -/

/-- By how much a batch raises a count. -/
def Call.adds (s : Surroundings ω) (c : Call ω) (o : Outcome) : Nat :=
  (c.visits s).countP (·.fate.outcome? = some o) +
    if o = .failed then (c.turns s).countP (·.missed s) else 0

/-- **Counts are cumulative**: a run raises them by what its batches do, one after another. -/
theorem run_counts_sum (s : Surroundings ω) (commands : List (Command ω)) (k : Intake ω)
    (o : Outcome) :
    (k.run s commands).metrics.counts.get o =
      k.metrics.counts.get o + ((calls s commands k).map (·.adds s o)).sum := by
  induction commands generalizing k with
  | nil => rfl
  | cons command rest ih =>
    show ((k.perform s command).run s rest).metrics.counts.get o = _
    rw [ih]
    cases command with
    | process batch =>
      let c : Call ω := { batch, before := k }
      have hcall : (k.process s batch).2.metrics.counts.get o =
          k.metrics.counts.get o + c.adds s o := by
        rw [Call.adds, ← Nat.add_assoc]
        exact c.process_counts o
      have hcalls : calls s (.process batch :: rest) k =
          c :: calls s rest (k.process s batch).2 := rfl
      rw [hcalls, List.map_cons, List.sum_cons, ← Nat.add_assoc, ← hcall]
      rfl
    -- whatever else is done leaves the counts as they are
    | reset id? => rfl
    | trigger => rfl
    | elapse i => rfl

/-! ### Records -/

/-- The record is one of a summary. -/
def LogRecord.ofSummary (r : LogRecord) : Bool := r.part = .metrics && r.level = .info

theorem LogRecord.Routine.not_ofSummary {r : LogRecord} (h : r.Routine) : r.ofSummary = false := by
  unfold ofSummary
  by_cases hpart : r.part = .metrics
  · rw [h.debug hpart]
    simp
  · simp [hpart]

/-- What the source says is no part of a summary. -/
def Source.Discreet (source : Source ω) : Prop :=
  ∀ name now w, ∀ r ∈ (source.ask name now w).1.records, r.ofSummary = false

theorem discreet_fixed (id : String) (values : List (String × String)) :
    (Source.fixed id values : Source ω).Discreet :=
  fun _ _ _ _ hr => absurd hr List.not_mem_nil

/-- An endpoint says what it loads, whether or not its address is wrong. -/
theorem records_ask (network : Network ω) (e : Endpoint) (name : String) (w : ω) :
    (e.ask network name w).1.records = [e.loadingRecord name] := by
  unfold Endpoint.ask
  dsimp only
  cases Endpoint.addressFault? (e.request name).url <;> rfl

theorem discreet_endpoint (network : Network ω) (e : Endpoint) :
    (Source.endpoint network e).Discreet := by
  intro name now w r hr
  simp only [Source.endpoint, records_ask, List.mem_singleton] at hr
  rw [hr, LogRecord.ofSummary, Endpoint.loadingRecord]
  rfl

/-- Sources that settings declare say nothing, or what they request. -/
theorem discreet_of_buildSource {network : Network ω} {settings : Settings} {id : String}
    {source : Source ω} (h : settings.buildSource network id = .ok source) : source.Discreet := by
  unfold Settings.buildSource at h
  split at h
  · unfold SourceSettings.build at h
    simp only at h
    split at h
    · obtain rfl := Except.ok.inj h
      exact discreet_fixed _ _
    · split at h
      · cases h
      · cases h
      · obtain rfl := Except.ok.inj h
        exact discreet_endpoint _ _
  · cases h

section Calls

variable {s : Surroundings ω} {c : Call ω}

/-- **A batch says nothing that could be taken for a summary**, unless a source does. -/
theorem process_says_no_summary
    (hbuild : ∀ ⦃id w source⦄, (s.build id w).1 = .ok source → source.Discreet)
    (hbound : c.before.BindsOnly fun _ source => source.Discreet) :
    ∃ said, (c.before.process s c.batch).2.records = c.before.records ++ said ∧
      ∀ r ∈ said, r.ofSummary = false := by
  obtain ⟨said, hsaid, hall⟩ := says_routine (s := s) c
  refine ⟨said ++ ((c.turns s).filter (·.raises s)).map (Intake.unexpectedRecord ·.id), ?_, ?_⟩
  · rw [hsaid, List.append_assoc]
  · intro r hr
    rcases List.mem_append.1 hr with hr | hr
    · rcases hall r hr with hroutine | ⟨v, hv, -, hquoted⟩
      · exact hroutine.not_ofSummary
      · obtain ⟨past, rest, hvisits⟩ := List.append_of_mem hv
        obtain ⟨hpast, hattached, -⟩ := Trail.split (hvisits ▸ trail_call (s := s) c)
        exact hpast.bindsOnly hbuild hbound hattached.client _ _ _ r hquoted
    · obtain ⟨t, -, rfl⟩ := List.mem_map.1 hr
      rfl

end Calls

end MetricIntake
