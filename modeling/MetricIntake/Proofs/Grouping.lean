import MetricIntake.Intake.Batch
import Mathlib.Data.List.Nodup

/-!
# The sources of a batch

`batchSources` has each source of a batch once (`nodup_batchSources`, `mem_batchSources`), and
`requestsOf` splits the batch between them: `flatMap_requestsOf_perm`.
-/

namespace MetricIntake

theorem nodup_eraseDups {α : Type} [BEq α] [LawfulBEq α] :
    ∀ xs : List α, xs.eraseDups.Nodup
  | [] => List.nodup_nil
  | x :: rest => by
    rw [List.eraseDups_cons, List.nodup_cons]
    constructor
    · -- `x` was filtered out of the rest
      intro h
      have := (List.mem_filter.1 (List.mem_eraseDups.1 h)).2
      simp at this
    · exact nodup_eraseDups _
  termination_by xs => xs.length
  decreasing_by exact Nat.lt_succ_of_le (List.length_filter_le ..)

theorem nodup_batchSources (batch : List Request) : (batchSources batch).Nodup :=
  nodup_eraseDups _

theorem mem_batchSources {batch : List Request} {id : String} :
    id ∈ batchSources batch ↔ ∃ r ∈ batch, r.source = id := by
  rw [batchSources, List.mem_eraseDups, List.mem_map]

theorem mem_requestsOf {id : String} {batch : List Request} {r : Request} :
    r ∈ requestsOf id batch ↔ r ∈ batch ∧ r.source = id := by
  rw [requestsOf, List.mem_filter, decide_eq_true_eq]

/-- Leaving out some sources leaves out all of their requests and none of the others. -/
theorem requestsOf_filter (id : String) (batch : List Request) (p : String → Bool) :
    requestsOf id (batch.filter fun r => p r.source) =
      if p id then requestsOf id batch else [] := by
  rw [requestsOf, requestsOf, List.filter_filter]
  split
  · rename_i h
    refine List.filter_congr fun r _ => ?_
    by_cases hr : r.source = id
    · rw [hr, h, Bool.and_true]
    · rw [decide_eq_false hr, Bool.false_and]
  · rename_i h
    rw [List.filter_eq_nil_iff]
    intro r _ hr
    obtain ⟨hid, hp⟩ := Bool.and_eq_true_iff.1 hr
    exact h (of_decide_eq_true hid ▸ hp)

/-- **The sources of a batch share it out**: each request is among those of exactly one source. -/
theorem flatMap_requestsOf_perm {ids : List String} (hids : ids.Nodup) {batch : List Request}
    (hbatch : ∀ r ∈ batch, r.source ∈ ids) :
    (ids.flatMap (requestsOf · batch)).Perm batch := by
  induction ids generalizing batch with
  | nil =>
    cases batch with
    | nil => exact List.Perm.nil
    | cons r rest => exact absurd (hbatch r List.mem_cons_self) List.not_mem_nil
  | cons id ids ih =>
    obtain ⟨hid, hids⟩ := List.nodup_cons.1 hids
    let others := batch.filter fun r => !decide (r.source = id)
    have hothers : ∀ r ∈ others, r.source ∈ ids := by
      intro r hr
      obtain ⟨hr, hne⟩ := List.mem_filter.1 hr
      rcases List.mem_cons.1 (hbatch r hr) with h | h
      · simp [h] at hne
      · exact h
    -- the other sources have the same requests once those of `id` are set aside
    have hsame : ids.flatMap (requestsOf · batch) = ids.flatMap (requestsOf · others) := by
      refine List.flatMap_congr fun other hother => ?_
      have hne : other ≠ id := fun h => hid (h ▸ hother)
      rw [requestsOf_filter other batch fun source => !decide (source = id), decide_eq_false hne]
      rfl
    rw [List.flatMap_cons, hsame]
    exact ((ih hids hothers).append_left _).trans (List.filter_append_perm _ batch)

/-- The only source of the requests of a source is that source. -/
theorem batchSources_requestsOf {id : String} {batch : List Request}
    (h : id ∈ batchSources batch) : batchSources (requestsOf id batch) = [id] := by
  obtain ⟨r, hr, hid⟩ := mem_batchSources.1 h
  refine List.perm_singleton.1 ((List.perm_ext_iff_of_nodup (nodup_batchSources _)
    (List.nodup_singleton id)).2 fun other => ?_)
  rw [mem_batchSources, List.mem_singleton]
  constructor
  · rintro ⟨r', hr', rfl⟩
    exact (mem_requestsOf.1 hr').2
  · rintro rfl
    exact ⟨r, mem_requestsOf.2 ⟨hr, hid⟩, hid⟩

theorem requestsOf_requestsOf (id : String) (batch : List Request) :
    requestsOf id (requestsOf id batch) = requestsOf id batch := by
  have h := requestsOf_filter id batch fun source => decide (source = id)
  rwa [decide_eq_true rfl, if_pos rfl] at h

end MetricIntake
