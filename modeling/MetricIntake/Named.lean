import Std.Data.HashSet

/-!
# Named values

Lists of values under names, in the order in which the names first appear: the members of a JSON
object, the entries of the store, the timers, the clients.  `Named.put` assigns a value and
`Named.lookup` finds one; `Named.lookup_put` says how they fit together.  `Named.ofPairs` assigns
many values, and `Named.ofPairs_eq` says that it assigns them one after another.
-/

namespace MetricIntake.Named

variable {κ α : Type} [DecidableEq κ]

/-- A value under a name: in the place of an earlier value of that name, or else at the end. -/
def put (name : κ) (value : α) : List (κ × α) → List (κ × α)
  | [] => [(name, value)]
  | (n, v) :: rest => if n = name then (n, value) :: rest else (n, v) :: put name value rest

/-- The value under a name, the first one if there are several. -/
def lookup (name : κ) : List (κ × α) → Option α
  | [] => none
  | (n, v) :: rest => if n = name then some v else lookup name rest

/-- What was put under a name is found there, and nothing else changes. -/
theorem lookup_put (name other : κ) (value : α) (entries : List (κ × α)) :
    lookup other (put name value entries) =
      if other = name then some value else lookup other entries := by
  induction entries with
  | nil => simp only [put, lookup, eq_comm]
  | cons head rest ih =>
    obtain ⟨n, v⟩ := head
    by_cases hn : n = name
    · subst hn
      by_cases ho : n = other
      · subst ho; simp [put, lookup]
      · simp [put, lookup, ho, Ne.symm ho]
    · by_cases ho : n = other
      · subst ho; simp [put, lookup, hn]
      · simp [put, lookup, hn, ho, ih]

/-! ### Many values at once -/

/-- Values under their names, assigned one after another. -/
def putAll (entries pairs : List (κ × α)) : List (κ × α) :=
  pairs.foldl (fun entries pair => put pair.1 pair.2 entries) entries

/-- The entries with another value under a name that they have. -/
def replace (name : κ) (value : α) (entries : List (κ × α)) : List (κ × α) :=
  entries.map fun entry => if entry.1 = name then (entry.1, value) else entry

/-- A value under a name that the entries do not have goes to the end. -/
theorem put_of_not_mem {name : κ} (value : α) {entries : List (κ × α)}
    (h : name ∉ entries.map Prod.fst) : put name value entries = entries ++ [(name, value)] := by
  induction entries with
  | nil => rfl
  | cons head rest ih =>
    simp only [List.map_cons, List.mem_cons, not_or] at h
    simp [put, Ne.symm h.1, ih h.2]

/-- A value under a name that the entries have replaces the one there. -/
theorem put_of_mem {name : κ} (value : α) {entries : List (κ × α)}
    (h : name ∈ entries.map Prod.fst) (once : (entries.map Prod.fst).Nodup) :
    put name value entries = replace name value entries := by
  induction entries with
  | nil => simp at h
  | cons head rest ih =>
    simp only [List.map_cons, List.nodup_cons] at once
    by_cases hn : head.1 = name
    · have same : replace name value rest = rest := by
        refine (List.map_congr_left fun entry he => ?_).trans (List.map_id _)
        have : entry.1 ≠ name := fun e =>
          once.1 (hn ▸ e ▸ List.mem_map_of_mem he)
        simp [this]
      simp only [put, hn, if_true]
      simp only [replace] at same ⊢
      simp [hn, same]
    · have hrest : name ∈ rest.map Prod.fst := by
        simp only [List.map_cons, List.mem_cons] at h
        exact h.resolve_left (Ne.symm hn)
      simp only [put, hn, if_false, ih hrest once.2]
      simp [replace, hn]

/-- Replacing a value keeps the names. -/
theorem map_fst_replace (name : κ) (value : α) (entries : List (κ × α)) :
    (replace name value entries).map Prod.fst = entries.map Prod.fst := by
  simp only [replace, List.map_map]
  refine List.map_congr_left fun entry _ => ?_
  simp only [Function.comp_apply]
  split <;> rfl

variable [Hashable κ]

/-- Values assigned to entries in reverse, whose names are `seen`. -/
def addPairs (seen : Std.HashSet κ) (entries : List (κ × α)) : List (κ × α) → List (κ × α)
  | [] => entries.reverse
  | (name, value) :: pairs =>
    if name ∈ seen then addPairs seen (replace name value entries) pairs
    else addPairs (seen.insert name) ((name, value) :: entries) pairs

/-- As long as `seen` holds the names of the entries, which are different ones, values are assigned
one after another. -/
theorem addPairs_eq (seen : Std.HashSet κ) (entries pairs : List (κ × α))
    (names : ∀ name, name ∈ seen ↔ name ∈ entries.map Prod.fst)
    (once : (entries.map Prod.fst).Nodup) :
    addPairs seen entries pairs = putAll entries.reverse pairs := by
  induction pairs generalizing seen entries with
  | nil => rfl
  | cons pair pairs ih =>
    obtain ⟨name, value⟩ := pair
    have memReverse : name ∈ entries.reverse.map Prod.fst ↔ name ∈ entries.map Prod.fst := by
      simp
    by_cases h : name ∈ seen
    · have once' : (entries.reverse.map Prod.fst).Nodup := by
        rw [List.map_reverse]
        exact (List.reverse_perm _).nodup_iff.2 once
      rw [addPairs, if_pos h, ih, putAll, putAll, List.foldl_cons,
        put_of_mem value (memReverse.2 ((names name).1 h)) once', replace, replace,
        List.map_reverse]
      · simpa only [map_fst_replace] using names
      · simpa only [map_fst_replace] using once
    · have absent : name ∉ entries.map Prod.fst := fun e => h ((names name).2 e)
      rw [addPairs, if_neg h, ih, putAll, putAll, List.foldl_cons,
        put_of_not_mem value (fun e => absent (memReverse.1 e)), List.reverse_cons]
      · intro other
        rw [Std.HashSet.mem_insert, List.map_cons, List.mem_cons, beq_iff_eq, names]
        exact or_congr_left eq_comm
      · simpa only [List.map_cons, List.nodup_cons] using ⟨absent, once⟩

/-- So many pairs are assigned one after another. -/
def fewPairs : Nat := 64

/-- The values of some pairs under their names, of which the last one of a name counts. -/
def ofPairs (pairs : List (κ × α)) : List (κ × α) :=
  if pairs.length ≤ fewPairs then putAll [] pairs else addPairs ∅ [] pairs

/-- However many there are, they are assigned one after another. -/
theorem ofPairs_eq (pairs : List (κ × α)) : ofPairs pairs = putAll [] pairs := by
  unfold ofPairs
  split
  · rfl
  · exact addPairs_eq ∅ [] pairs (by simp) List.nodup_nil

end MetricIntake.Named
