import MetricIntake.Proofs.KeptSamples

/-!
# Writes of several caches

Caches that share a store may write to it in any order.  `Store.writeAll` is the store after a
sequence of writes, and `lastUnder?` the last one of them that leaves something under a key.
`Store.Working.get?_writeAll` says that this is the one to be found there, so that every cache reads
back the sample that was last written under the key of the store: `caches_keep_last`.
-/

namespace MetricIntake

/-! ### One write -/

/-- A text of characters has no halves. -/
theorem CodeText.halves?_ofString (s : String) : (ofString s).halves? = none := by
  have hall : ∀ p ∈ ofString s, (!CodePoint.isHalf p) = true := by
    simp [ofString, ofChars, CodePoint.isHalf]
  rw [halves?, List.span_eq_takeWhile_dropWhile, List.dropWhile_eq_nil_iff.2 hall]

/-- A sample that a cache is to keep, all of it texts of characters. -/
structure CacheWrite where
  cache : Cache
  /-- The key of the cache. -/
  key : String
  name : String
  value : String
  updatedAt : String
  /-- For how many milliseconds the sample may be kept. -/
  ttl : Int
deriving DecidableEq, Repr

namespace CacheWrite

/-- The sample that is written. -/
def sample (w : CacheWrite) : Sample := ⟨w.name, w.value, w.updatedAt⟩

/-- The key of the store. -/
def storeKey (w : CacheWrite) : String := w.cache.storeKey w.key

/-- What the write leaves under its key, if it leaves something. -/
def entry (w : CacheWrite) : Entry := { bytes := w.sample.dumpBytes, ttl := w.ttl }

/-- The write leaves something under a key of the store. -/
def leaves (key : String) (w : CacheWrite) : Bool := w.storeKey = key && 0 < w.ttl

theorem halves?_sample (w : CacheWrite) : w.sample.halves? = none := by
  simp [Sample.halves?, sample, CodeText.halves?_ofString]

end CacheWrite

/-- A store that can be read and written. -/
structure Store.Working (s : Store) : Prop where
  readFailure : s.readFailure = none
  writeFailure : s.writeFailure = none

namespace Store

/-- The store after a write. -/
def write (s : Store) (w : CacheWrite) : Except Fault Store :=
  (w.cache.keep s w.key w.sample w.ttl).map Prod.fst

/-- The store after some writes, one after another. -/
def writeAll (s : Store) (writes : List CacheWrite) : Except Fault Store :=
  writes.foldlM write s

theorem working_empty : empty.Working := ⟨rfl, rfl⟩

/-- Without a time to live nothing is written. -/
theorem write_of_ttl_le {w : CacheWrite} (s : Store) (h : w.ttl ≤ 0) : s.write w = .ok s := by
  rw [write, Cache.keep, if_pos h]
  rfl

/-- A write to a working store leaves its sample under its key. -/
theorem Working.write_of_ttl_pos {s : Store} (hs : s.Working) {w : CacheWrite} (h : 0 < w.ttl) :
    s.write w = .ok (s.insert w.storeKey w.entry) := by
  rw [write, Cache.keep, if_neg (by omega), w.halves?_sample, hs.writeFailure]
  rfl

/-- **A write leaves other keys as they are**, whether or not the store takes it. -/
theorem get?_write_of_ne {s s' : Store} {w : CacheWrite} (h : s.write w = .ok s') {key : String}
    (hne : key ≠ w.storeKey) : s'.get? key = s.get? key := by
  by_cases hpos : 0 < w.ttl
  · rw [write, Cache.keep, if_neg (by omega), w.halves?_sample] at h
    cases hf : s.writeFailure with
    | some message =>
      rw [hf] at h
      obtain rfl := Except.ok.inj h
      rfl
    | none =>
      rw [hf] at h
      obtain rfl := Except.ok.inj h
      exact (get?_insert ..).trans (if_neg hne)
  · rw [write_of_ttl_le s (by omega)] at h
    obtain rfl := Except.ok.inj h
    rfl

/-- What is under a key after a write to a working store, which goes on working. -/
theorem Working.write {s : Store} (hs : s.Working) (w : CacheWrite) :
    ∃ s', s.write w = .ok s' ∧ s'.Working ∧
      ∀ key, s'.get? key = if w.leaves key then some w.entry else s.get? key := by
  by_cases hpos : 0 < w.ttl
  · refine ⟨_, hs.write_of_ttl_pos hpos, ⟨hs.readFailure, hs.writeFailure⟩, ?_⟩
    intro key
    rw [get?_insert]
    refine if_congr ?_ rfl rfl
    simp [CacheWrite.leaves, hpos, eq_comm]
  · refine ⟨s, write_of_ttl_le s (by omega), hs, ?_⟩
    intro key
    have hnot : w.leaves key = false := by simp [CacheWrite.leaves, hpos]
    rw [hnot, if_neg Bool.false_ne_true]

end Store

/-! ### Writes one after another -/

/-- The last write that leaves something under a key of the store. -/
def lastUnder? (key : String) (writes : List CacheWrite) : Option CacheWrite :=
  (writes.filter (·.leaves key)).getLast?

theorem lastUnder?_cons (key : String) (w : CacheWrite) (writes : List CacheWrite) :
    lastUnder? key (w :: writes) =
      (lastUnder? key writes).or (if w.leaves key then some w else none) := by
  rw [lastUnder?, lastUnder?, List.filter_cons]
  split
  · rw [List.getLast?_cons]
    cases (writes.filter (·.leaves key)).getLast? <;> rfl
  · rw [Option.or_none]

/-- **What is under a key after some writes** is what the last one that left something there left,
and if there was none, what was there before. -/
theorem Store.Working.get?_writeAll {s : Store} (hs : s.Working) (writes : List CacheWrite) :
    ∃ s', s.writeAll writes = .ok s' ∧ s'.Working ∧
      ∀ key, s'.get? key = ((lastUnder? key writes).map (·.entry)).or (s.get? key) := by
  induction writes generalizing s with
  | nil => exact ⟨s, rfl, hs, fun key => rfl⟩
  | cons w writes ih =>
    obtain ⟨s₁, hwrite, hs₁, hget₁⟩ := hs.write w
    obtain ⟨s₂, hall, hs₂, hget₂⟩ := ih hs₁
    refine ⟨s₂, ?_, hs₂, ?_⟩
    · rw [writeAll, List.foldlM_cons, hwrite]
      exact hall
    · intro key
      rw [hget₂, hget₁, lastUnder?_cons]
      -- a later write counts for more than `w`, and `w` for more than what was there
      cases lastUnder? key writes with
      | some later => rfl
      | none =>
        by_cases hleaves : w.leaves key = true
        · simp [hleaves]
        · simp [hleaves]

/-! ### Reading back -/

/-- A cache finds the sample of an entry that a write left. -/
theorem Cache.look_of_entry {s : Store} (hs : s.Working) {cache : Cache} {key : String}
    {w : CacheWrite} (h : s.get? (cache.storeKey key) = some w.entry) :
    cache.look s key = .ok (.found w.sample) := by
  have hread : Sample.ofBytes cache.depth w.entry.bytes = .ok (some w.sample) :=
    Sample.ofBytes_dumpBytes w.halves?_sample cache.depth
  have hfull : w.entry.bytes.isEmpty = false := rfl
  rw [look, hs.readFailure, h]
  dsimp only
  rw [hfull, if_neg Bool.false_ne_true, hread]

/-- A cache finds nothing where there is no entry. -/
theorem Cache.look_of_none {s : Store} (hs : s.Working) {cache : Cache} {key : String}
    (h : s.get? (cache.storeKey key) = none) : cache.look s key = .ok .absent := by
  rw [look, hs.readFailure, h]

/-- **Caches are faithful**: after any writes of any caches to a store that was empty, each cache
reads under each key the sample that was last written with a time to live under the same key of the
store, and nothing if there was none.  In any store a write without a time to live changes nothing,
and no write changes what is under another key of the store. -/
theorem caches_keep_last :
    (∀ writes : List CacheWrite, ∃ s, Store.empty.writeAll writes = .ok s ∧
      ∀ (cache : Cache) (key : String), cache.look s key =
        .ok (match lastUnder? (cache.storeKey key) writes with
          | some w => .found w.sample
          | none => .absent)) ∧
      ∀ (s : Store) (w : CacheWrite),
        (w.ttl ≤ 0 → s.write w = .ok s) ∧
          ∀ s', s.write w = .ok s' → ∀ key, key ≠ w.storeKey → s'.get? key = s.get? key := by
  refine ⟨?_, fun s w => ⟨Store.write_of_ttl_le s, fun s' h key => Store.get?_write_of_ne h⟩⟩
  intro writes
  obtain ⟨s, hwrites, hs, hget⟩ := Store.working_empty.get?_writeAll writes
  refine ⟨s, hwrites, ?_⟩
  intro cache key
  have hentry := hget (cache.storeKey key)
  cases hlast : lastUnder? (cache.storeKey key) writes with
  | some w =>
    rw [hlast] at hentry
    exact Cache.look_of_entry hs hentry
  | none =>
    rw [hlast] at hentry
    exact Cache.look_of_none hs hentry

end MetricIntake
