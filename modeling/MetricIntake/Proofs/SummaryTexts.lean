import MetricIntake.Proofs.Timers
import Mathlib.Data.Set.List

/-!
# What a summary says

The records of a summary in full: a `countsRecord` of how many requests ended in each way, and a
`timerRecord` for each source that was asked.  `IsSummary` says which records sum up some counts and
visits, and `Intake.TimedBy.isSummary` that `Metrics.summary` gives such records of all that lies
behind an intake.
-/

namespace MetricIntake

variable {ω : Type}

/-! ### Records -/

/-- What is said of how many requests ended in each way. -/
def countsRecord (meter : String) (count : Outcome → Nat) : LogRecord :=
  ⟨.info, .metrics,
    meter ++ " outcomes: succeeded=" ++ toString (count .succeeded) ++ " no_data=" ++
      toString (count .noData) ++ " failed=" ++ toString (count .failed)⟩

/-- What is said of the calls to a source that took so many milliseconds each: how many they are,
the mean, the smallest and the largest. -/
def timerRecord (meter id : String) (durations : List Double) : LogRecord :=
  let mean := (durations.foldl Double.add .zero).div (.ofWhole durations.length)
  let least := durations.foldl Double.min (.infinite false)
  let greatest := durations.foldl Double.max .zero
  ⟨.info, .metrics,
    meter ++ " " ++ Intake.timerName id ++ ": count=" ++ toString durations.length ++ " avg=" ++
      mean.fixed 1 ++ "ms min=" ++ least.fixed 1 ++ "ms max=" ++ greatest.fixed 1 ++ "ms"⟩

/-- Records that sum up some visits: one with the counts, and then one for each source that was
asked, in the order of the names of their timers. -/
inductive IsSummary (meter : String) (count : Outcome → Nat) (vs : List (Visit ω)) :
    List LogRecord → Prop
  | records {ids : List String} (sorted : (ids.map Intake.timerName).Pairwise (· < ·))
      (asked : ∀ id, id ∈ ids ↔ ∃ v ∈ vs, v.asks = true ∧ v.client.source.id = id) :
      IsSummary meter count vs
        (countsRecord meter count :: ids.map fun id => timerRecord meter id (durations id vs))

theorem IsSummary.ofSummary {meter : String} {count : Outcome → Nat} {vs : List (Visit ω)}
    {records : List LogRecord} (h : IsSummary meter count vs records) :
    ∀ r ∈ records, r.ofSummary = true := by
  obtain ⟨-, -⟩ := h
  intro r hr
  rcases List.mem_cons.1 hr with rfl | hr
  · rfl
  · obtain ⟨id, -, rfl⟩ := List.mem_map.1 hr
    rfl

/-! ### Summaries of an intake -/

/-- A visit leaves the name under which metrics are reported. -/
theorem Visit.after_meter (v : Visit ω) : v.after.metrics.meter = v.before.metrics.meter := by
  have htally : v.after.metrics.meter = v.asked.metrics.meter := by
    rw [v.after_metrics, Fate.tally]
    split <;> rfl
  obtain ⟨millis, hfetch⟩ := Intake.fetch_metrics v.client v.request.name v.before
  rw [htally, Visit.asked]
  split
  · rw [hfetch]
    rfl
  · rfl

theorem Trail.meter_eq {s : Surroundings ω} {k m : Intake ω} {vs : List (Visit ω)}
    (h : Trail s k vs m) : m.metrics.meter = k.metrics.meter := by
  induction h with
  | nil k => rfl
  | step hstep _ ih => rw [ih, hstep.meter_eq]
  | @visit v m vs _ _ ih => rw [ih, v.after_meter]

namespace Metrics

theorem countsText_eq {m : Metrics} {count : Outcome → Nat} (h : ∀ o, m.counts.get o = count o) :
    (⟨.info, .metrics, m.countsText⟩ : LogRecord) = countsRecord m.meter count := by
  rw [countsRecord, ← h, ← h, ← h]
  rfl

/-- What is said of a timer that has been used. -/
theorem timerText_eq {m : Metrics} {id : String} {durations : List Double} (hne : durations ≠ [])
    (h : m.latency (Intake.timerName id) = .ofDurations durations) :
    (⟨.info, .metrics, m.timerText (Intake.timerName id)⟩ : LogRecord) =
      timerRecord m.meter id durations := by
  rw [LatencyStats.ofDurations_eq] at h
  rw [timerText, h, timerRecord, LatencyStats.average, if_neg (mt List.length_eq_zero_iff.1 hne)]

end Metrics

namespace Intake.TimedBy

variable {k m : Intake ω} {past : List (Visit ω)}

theorem timerName_mem_iff (h : k.TimedBy past m) (id : String) :
    timerName id ∈ m.metrics.timerNames ↔ durations id past ≠ [] := by
  rw [Metrics.mem_timerNames, h.used, ← List.length_pos_iff, ← LatencyStats.count_ofDurations,
    ← h.stats]
  constructor
  · rintro ⟨other, hother, hpos⟩
    exact hpos
  · exact fun hpos => ⟨id, rfl, hpos⟩

/-- Every timer is that of a source. -/
theorem exists_timerNames_eq (h : k.TimedBy past m) :
    ∃ ids : List String, ids.map timerName = m.metrics.timerNames ∧
      ∀ id, id ∈ ids ↔ durations id past ≠ [] := by
  obtain ⟨ids, hids⟩ : m.metrics.timerNames ∈ Set.range (List.map timerName) := by
    rw [Set.range_list_map]
    intro timer htimer
    obtain ⟨id, hid, -⟩ := (h.used timer).1 (Metrics.mem_timerNames.1 htimer)
    exact ⟨id, hid.symm⟩
  refine ⟨ids, hids, fun id => ?_⟩
  rw [← h.timerName_mem_iff, ← hids, List.mem_map]
  constructor
  · exact fun hid => ⟨id, hid, rfl⟩
  · rintro ⟨other, hother, hname⟩
    rwa [← timerName_inj hname]

/-- **A summary sums up what lies behind an intake.** -/
theorem isSummary (h : k.TimedBy past m) {count : Outcome → Nat}
    (hcount : ∀ o, m.metrics.counts.get o = count o) :
    IsSummary m.metrics.meter count past m.metrics.summary := by
  obtain ⟨ids, hids, hmem⟩ := h.exists_timerNames_eq
  have hrecords : m.metrics.summary = countsRecord m.metrics.meter count ::
      ids.map fun id => timerRecord m.metrics.meter id (durations id past) := by
    rw [Metrics.summary, Metrics.countsText_eq hcount, ← hids, List.map_map]
    refine congrArg (_ :: ·) (List.map_congr_left fun id hid => ?_)
    exact Metrics.timerText_eq ((hmem id).1 hid) (h.stats id)
  rw [hrecords]
  refine .records ?_ fun id => (hmem id).trans durations_ne_nil_iff
  rw [hids]
  exact Metrics.timerNames_sorted h.once

end Intake.TimedBy

end MetricIntake
