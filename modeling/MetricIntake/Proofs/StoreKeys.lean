import MetricIntake.Cache
import MetricIntake.Request

/-!
# Keys of the store

A key of the store is the source, the source once more and the name, with colons between them, and
nothing is escaped.  `keyOf_eq_iff` says which requests share a key: besides equal ones those that
overlap (`Overlap`), of which one's source goes on with a colon where the other's ends.  There is no
such thing without colons in the ids of sources (`storeKey_source_inj`).
-/

namespace MetricIntake

/-! ### Texts with a colon between them -/

/-- The later of two parting points `x` of a list leaves the earlier one in its first part. -/
theorem append_cons_eq_append_cons_iff {α : Type} {x : α} {a b c d : List α} :
    a ++ x :: b = c ++ x :: d ↔
      (a = c ∧ b = d) ∨ (∃ u, c = a ++ x :: u ∧ b = u ++ x :: d) ∨
        ∃ u, a = c ++ x :: u ∧ d = u ++ x :: b := by
  constructor
  · intro h
    rcases List.append_eq_append_iff.1 h with ⟨t, hc, hb⟩ | ⟨t, ha, hd⟩
    · -- `t` is what the second list has between the two parting points
      rcases t with _ | ⟨y, u⟩
      · rw [List.append_nil] at hc
        exact .inl ⟨hc.symm, (List.cons.inj hb).2⟩
      · obtain ⟨hy, hbu⟩ := List.cons.inj hb
        subst hy
        exact .inr (.inl ⟨u, hc, hbu⟩)
    · rcases t with _ | ⟨y, u⟩
      · rw [List.append_nil] at ha
        exact .inl ⟨ha, (List.cons.inj hd).2.symm⟩
      · obtain ⟨hy, hdu⟩ := List.cons.inj hd
        subst hy
        exact .inr (.inr ⟨u, ha, hdu⟩)
  · rintro (⟨rfl, rfl⟩ | ⟨u, rfl, rfl⟩ | ⟨u, rfl, rfl⟩) <;> simp

/-- Two texts with a colon after their first parts are equal just if the parts are, or if one of the
first parts goes on after the other with a colon. -/
theorem append_colon_eq_iff {a b c d : String} :
    a ++ ":" ++ b = c ++ ":" ++ d ↔
      (a = c ∧ b = d) ∨ (∃ u, c = a ++ ":" ++ u ∧ b = u ++ ":" ++ d) ∨
        ∃ u, a = c ++ ":" ++ u ∧ d = u ++ ":" ++ b := by
  constructor
  · intro h
    have hlists : a.toList ++ ':' :: b.toList = c.toList ++ ':' :: d.toList := by
      simpa using congrArg String.toList h
    rcases append_cons_eq_append_cons_iff.1 hlists with ⟨hac, hbd⟩ | ⟨u, hc, hb⟩ | ⟨u, ha, hd⟩
    · exact .inl ⟨String.toList_inj.1 hac, String.toList_inj.1 hbd⟩
    · refine .inr (.inl ⟨String.ofList u, ?_, ?_⟩)
      · rw [← String.toList_inj, hc]
        simp
      · rw [← String.toList_inj, hb]
        simp
    · refine .inr (.inr ⟨String.ofList u, ?_, ?_⟩)
      · rw [← String.toList_inj, ha]
        simp
      · rw [← String.toList_inj, hd]
        simp
  · rintro (⟨rfl, rfl⟩ | ⟨u, rfl, rfl⟩ | ⟨u, rfl, rfl⟩) <;> simp [String.append_assoc]

/-! ### Which requests share a key -/

/-- The source `s'` goes on after `s` with a colon, and the name `n` makes up for it. -/
def Overlap (s n s' n' : String) : Prop :=
  ∃ u t, s' = s ++ ":" ++ u ∧ u ++ ":" ++ s ++ ":" = s ++ ":" ++ t ∧ n = t ++ u ++ ":" ++ n'

/-- The key of the store for a metric of a source, whatever depth its cache reads to. -/
def keyOf (keyspace source name : String) : String :=
  Cache.storeKey ⟨keyspace, source, default⟩ (Request.cacheKey ⟨source, name, none, 0⟩)

/-- Sources that overlap share the key. -/
theorem keyOf_eq_of_overlap {keyspace s n s' n' : String} (h : Overlap s n s' n') :
    keyOf keyspace s n = keyOf keyspace s' n' := by
  obtain ⟨u, t, rfl, ht, rfl⟩ := h
  have hfront : s ++ ":" ++ t ++ (u ++ ":" ++ n') = u ++ ":" ++ s ++ ":" ++ (u ++ ":" ++ n') :=
    congrArg (· ++ (u ++ ":" ++ n')) ht.symm
  have htail := congrArg (keyspace ++ ":" ++ s ++ ":" ++ ·) hfront
  simpa only [keyOf, Cache.storeKey, Request.cacheKey, String.append_assoc] using htail

/-- If a source goes on after another with a colon and they share a key, they overlap. -/
theorem overlap_of_append_eq {s n u n' : String}
    (h : s ++ ":" ++ n = u ++ ":" ++ (s ++ ":" ++ u ++ ":" ++ n')) :
    Overlap s n (s ++ ":" ++ u) n' := by
  have hcut : s ++ ":" ++ n = u ++ ":" ++ s ++ ":" ++ (u ++ ":" ++ n') := by
    simpa only [String.append_assoc] using h
  have hlists : (s ++ ":").toList ++ n.toList =
      (u ++ ":" ++ s ++ ":").toList ++ (u ++ ":" ++ n').toList := by
    rw [← String.toList_append, ← String.toList_append, hcut]
  rcases List.append_eq_append_iff.1 hlists with ⟨t, ht, hn⟩ | ⟨t, ht, -⟩
  · refine ⟨u, String.ofList t, rfl, ?_, ?_⟩
    · rw [← String.toList_inj, ht]
      simp
    · rw [← String.toList_inj, hn]
      simp
  · -- `s` and a colon cannot be longer than `u`, `s` and two colons
    have hlen := congrArg List.length ht
    simp only [String.toList_append, List.length_append] at hlen
    have hcolon : ":".toList.length = 1 := rfl
    omega

/-- **Which requests share a key**: those for the same metric of the same source, and those that
overlap. -/
theorem keyOf_eq_iff {keyspace s n s' n' : String} :
    keyOf keyspace s n = keyOf keyspace s' n' ↔
      (s = s' ∧ n = n') ∨ Overlap s n s' n' ∨ Overlap s' n' s n := by
  constructor
  · intro h
    -- the first part of both keys is the same
    have hcut : s ++ ":" ++ (s ++ ":" ++ n) = s' ++ ":" ++ (s' ++ ":" ++ n') := by
      have h' : keyspace ++ ":" ++ (s ++ ":" ++ (s ++ ":" ++ n)) =
          keyspace ++ ":" ++ (s' ++ ":" ++ (s' ++ ":" ++ n')) := by
        simpa only [keyOf, Cache.storeKey, Request.cacheKey, String.append_assoc] using h
      exact (String.append_right_inj _).1 h'
    rcases append_colon_eq_iff.1 hcut with ⟨rfl, hn⟩ | ⟨u, rfl, h⟩ | ⟨u, rfl, h⟩
    · exact .inl ⟨rfl, (String.append_right_inj _).1 hn⟩
    · exact .inr (.inl (overlap_of_append_eq h))
    · exact .inr (.inr (overlap_of_append_eq h))
  · rintro (⟨rfl, rfl⟩ | h | h)
    · rfl
    · exact keyOf_eq_of_overlap h
    · exact (keyOf_eq_of_overlap h).symm

example : Overlap "a" "a:a:x" "a:a" "x" := ⟨"a", "a:", by decide⟩

/-- Sources without colons share no keys, whatever is kept under them. -/
theorem storeKey_source_inj {keyspace s s' key key' : String} {depth depth' : Json.Depth}
    (hs : ':' ∉ s.toList) (hs' : ':' ∉ s'.toList)
    (h : Cache.storeKey ⟨keyspace, s, depth⟩ key = Cache.storeKey ⟨keyspace, s', depth'⟩ key') :
    s = s' ∧ key = key' := by
  have hcut : s ++ ":" ++ key = s' ++ ":" ++ key' := by
    have h' : keyspace ++ ":" ++ (s ++ ":" ++ key) = keyspace ++ ":" ++ (s' ++ ":" ++ key') := by
      simpa only [Cache.storeKey, String.append_assoc] using h
    exact (String.append_right_inj _).1 h'
  rcases append_colon_eq_iff.1 hcut with hsame | ⟨u, rfl, -⟩ | ⟨u, rfl, -⟩
  · exact hsame
  · exact absurd (by simp) hs'
  · exact absurd (by simp) hs

end MetricIntake
