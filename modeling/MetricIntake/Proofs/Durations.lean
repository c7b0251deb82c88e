import MetricIntake.Clock
import MetricIntake.Metrics
import MetricIntake.Proofs.Rounding
import Mathlib.Data.ENat.Basic

/-!
# Durations

What statistics say of durations.  A duration that two readings of a clock take is no negative
number, and no negative zero either, if the readings are finite and the second is not the smaller
one (`isUnsigned_elapsedMillis`).  Of such durations the statistics have the smallest and the
largest one: `LatencyStats.spans_ofDurations`.  That nothing yet is taken for infinitely many
milliseconds at least and for none at most does not show, since every duration is between the two.
-/

namespace MetricIntake

namespace Double

/-! ### Unsigned doubles -/

/-- At most as large; nothing is so compared with not-a-number. -/
def Le (a b : Double) : Prop := a ≠ .nan ∧ b ≠ .nan ∧ b.lt a = false

/-- A number without a minus sign. -/
inductive IsUnsigned : Double → Prop
  | finite (m : Magnitude) : IsUnsigned (.finite false m)
  | infinite : IsUnsigned (.infinite false)

/-- The size of a number in units; that of an infinity is above all others. -/
def level : Double → ℕ∞
  | .finite _ m => m.units
  | _ => ⊤

variable {a b : Double}

theorem IsUnsigned.ne_nan (h : a.IsUnsigned) : a ≠ .nan := by
  rintro rfl
  cases h

/-- Unsigned numbers compare as their sizes do. -/
theorem IsUnsigned.lt_iff (ha : a.IsUnsigned) (hb : b.IsUnsigned) :
    a.lt b = true ↔ a.level < b.level := by
  cases ha with
  | finite m =>
    cases hb with
    | finite n => simp [lt, level]
    | infinite => simp [lt, level]
  | infinite =>
    cases hb with
    | finite n => simp [lt, level]
    | infinite => simp [lt, level]

theorem IsUnsigned.le_iff (ha : a.IsUnsigned) (hb : b.IsUnsigned) :
    a.Le b ↔ a.level ≤ b.level := by
  rw [Le, ← Bool.not_eq_true, hb.lt_iff ha, not_lt]
  exact ⟨fun h => h.2.2, fun h => ⟨ha.ne_nan, hb.ne_nan, h⟩⟩

/-- Unsigned numbers of one size are the same. -/
theorem IsUnsigned.eq_of_level (ha : a.IsUnsigned) (hb : b.IsUnsigned) (h : a.level = b.level) :
    a = b := by
  cases ha with
  | finite m =>
    cases hb with
    | finite n =>
      have hunits : m.units = n.units := by simpa [level] using h
      exact congrArg _ (Magnitude.ext hunits)
    | infinite => simp [level] at h
  | infinite =>
    cases hb with
    | finite n => simp [level] at h
    | infinite => rfl

/-! ### The least and the greatest -/

/-- Of two unsigned numbers the operation gives one, whose size is related to both sizes. -/
structure Picks (f : Double → Double → Double) (r : ℕ∞ → ℕ∞ → Prop) : Prop where
  refl : ∀ x, r x x
  trans : ∀ x y z, r x y → r y z → r x z
  one : ∀ ⦃a b⦄, a.IsUnsigned → b.IsUnsigned → f a b = a ∨ f a b = b
  both : ∀ ⦃a b⦄, a.IsUnsigned → b.IsUnsigned →
    r (f a b).level a.level ∧ r (f a b).level b.level

theorem picks_min : Picks Double.min (· ≤ ·) where
  refl x := le_refl x
  trans x y z := le_trans
  one a b _ _ := by
    unfold Double.min
    split
    · exact .inr rfl
    · exact .inl rfl
  both a b ha hb := by
    unfold Double.min
    split
    · rename_i h
      exact ⟨((hb.lt_iff ha).1 h).le, le_rfl⟩
    · rename_i h
      exact ⟨le_rfl, not_lt.1 fun hlt => h ((hb.lt_iff ha).2 hlt)⟩

theorem picks_max : Picks Double.max (· ≥ ·) where
  refl x := le_refl x
  trans x y z hxy hyz := le_trans hyz hxy
  one a b _ _ := by
    unfold Double.max
    split
    · exact .inr rfl
    · exact .inl rfl
  both a b ha hb := by
    unfold Double.max
    split
    · rename_i h
      exact ⟨((ha.lt_iff hb).1 h).le, le_rfl⟩
    · rename_i h
      exact ⟨le_rfl, not_lt.1 fun hlt => h ((ha.lt_iff hb).2 hlt)⟩

/-- Of several unsigned numbers it gives one as well, whose size is related to all sizes. -/
theorem Picks.foldl {f : Double → Double → Double} {r : ℕ∞ → ℕ∞ → Prop} (hf : Picks f r)
    {ds : List Double} (ha : a.IsUnsigned) (h : ∀ d ∈ ds, d.IsUnsigned) :
    ds.foldl f a ∈ a :: ds ∧ ∀ d ∈ a :: ds, r (ds.foldl f a).level d.level := by
  induction ds generalizing a with
  | nil => exact ⟨List.mem_cons_self, List.forall_mem_singleton.2 (hf.refl _)⟩
  | cons b ds ih =>
    obtain ⟨hb, h⟩ := List.forall_mem_cons.1 h
    obtain ⟨hleft, hright⟩ := hf.both ha hb
    have hone := hf.one ha hb
    have hpick : (f a b).IsUnsigned := by
      rcases hone with hone | hone <;> rw [hone]
      · exact ha
      · exact hb
    obtain ⟨hmem, hall⟩ := ih hpick h
    obtain ⟨hfirst, hall⟩ := List.forall_mem_cons.1 hall
    rw [List.foldl_cons]
    constructor
    · rcases List.mem_cons.1 hmem with hmem | hmem
      · rw [hmem]
        rcases hone with hone | hone <;> simp [hone]
      · exact List.mem_cons_of_mem _ (List.mem_cons_of_mem _ hmem)
    · rw [List.forall_mem_cons, List.forall_mem_cons]
      exact ⟨hf.trans _ _ _ hfirst hleft, hf.trans _ _ _ hfirst hright, hall⟩

/-! ### Unsigned results -/

/-- A ratio is rounded to a finite number of its sign, or to the infinity of its sign. -/
theorem ofRatio_cases (negative : Bool) (num den : Nat) :
    (∃ m : Magnitude, m.units = nearestUnits num den ∧
      ofRatio negative num den = .finite negative m) ∨
    ofRatio negative num den = .infinite negative := by
  unfold ofRatio
  by_cases h : nearestUnits num den < unitsLimit
  · simp only [h, ↓reduceDIte]
    exact .inl ⟨_, rfl, rfl⟩
  · simp only [h, ↓reduceDIte]
    exact .inr trivial

theorem isUnsigned_ofRatio (num den : Nat) : (ofRatio false num den).IsUnsigned := by
  obtain ⟨m, -, h⟩ | h := ofRatio_cases false num den
  · rw [h]
    exact .finite m
  · rw [h]
    exact .infinite

/-- A number of units that is not negative is rounded to an unsigned one, if that is the sign of
zero. -/
theorem isUnsigned_ofUnits {zeroNegative : Bool} {n : Int} (h : 0 ≤ n)
    (hzero : n = 0 → zeroNegative = false) : (ofUnits zeroNegative n).IsUnsigned := by
  have hsign : (if n = 0 then zeroNegative else decide (n < 0)) = false := by
    split
    · rename_i hn
      exact hzero hn
    · exact decide_eq_false (not_lt.2 h)
  rw [ofUnits, hsign]
  exact isUnsigned_ofRatio _ _

theorem signedUnits_not (negative : Bool) (m : Magnitude) :
    signedUnits (!negative) m = -signedUnits negative m := by
  cases negative <;> simp [signedUnits]

/-- A sum is the negative zero only if both numbers are. -/
theorem eq_of_add_eq_neg_zero (h : a.add b = zero.neg) : a = zero.neg ∧ b = zero.neg := by
  cases a with
  | nan => cases h
  | infinite s =>
    cases b with
    | nan => cases h
    | infinite t =>
      rw [add] at h
      split at h <;> cases h
    | finite t n => cases h
  | finite s m =>
    cases b with
    | nan => cases h
    | infinite t => cases h
    | finite t n =>
      rw [add, ofUnits] at h
      obtain ⟨u, hunits, hratio⟩ | hratio := ofRatio_cases
        (if signedUnits s m + signedUnits t n = 0 then s && t
          else decide (signedUnits s m + signedUnits t n < 0))
        (signedUnits s m + signedUnits t n).natAbs 1
      · obtain ⟨hsign, rfl⟩ := Double.finite.inj (hratio.symm.trans h)
        -- no number of units but zero is rounded to zero
        have hsum : signedUnits s m + signedUnits t n = 0 := by
          by_contra hne
          have hwhole : (signedUnits s m + signedUnits t n).natAbs / 1 ≠ 0 := by
            rw [Nat.div_one]
            exact Int.natAbs_ne_zero.2 hne
          have hpos := two_pow_log2_le_nearestUnits hwhole
          rw [← hunits] at hpos
          exact absurd hpos (not_le.2 (Nat.two_pow_pos _))
        rw [if_pos hsum] at hsign
        obtain ⟨rfl, rfl⟩ := Bool.and_eq_true_iff.1 hsign
        simp only [signedUnits, if_true] at hsum
        have hm : m = .zero := Magnitude.ext (show m.units = 0 by omega)
        have hn : n = .zero := Magnitude.ext (show n.units = 0 by omega)
        rw [hm, hn]
        exact ⟨rfl, rfl⟩
      · rw [hratio] at h
        cases h

/-- A difference of a finite number and one that is not larger is unsigned, but for that of the
negative zero and zero. -/
theorem isUnsigned_sub (ha : a.isFinite = true) (hb : b.isFinite = true) (hle : b.lt a = false)
    (hzero : b = zero.neg → a = zero.neg) : (b.sub a).IsUnsigned := by
  cases a with
  | nan => cases ha
  | infinite s => cases ha
  | finite s m =>
    cases b with
    | nan => cases hb
    | infinite t => cases hb
    | finite t n =>
      have hle' : signedUnits s m ≤ signedUnits t n := by
        have hnot := of_decide_eq_false hle
        exact not_lt.1 hnot
      rw [sub, neg, add, signedUnits_not]
      refine isUnsigned_ofUnits (by omega) fun hdiff => ?_
      -- with another sign, both are zero
      cases t with
      | false => rfl
      | true =>
        cases s with
        | true => rfl
        | false =>
          simp only [signedUnits, if_true, Bool.false_eq_true, if_false] at hdiff
          have hn : n = .zero := Magnitude.ext (show n.units = 0 by omega)
          have hm := hzero (by rw [hn]; rfl)
          cases hm

theorem ofWhole_thousand : ∃ m : Magnitude, ofWhole 1000 = .finite false m ∧ m.units ≠ 0 := by
  have hfinite : (ofWhole 1000).isFinite = true := by decide +kernel
  have hpos : ofWhole 1000 ≠ zero := by decide +kernel
  have hunsigned : (ofWhole 1000).IsUnsigned := isUnsigned_ofRatio _ _
  generalize ofWhole 1000 = thousand at hfinite hpos hunsigned ⊢
  cases hunsigned with
  | finite m => exact ⟨m, rfl, fun hm => hpos (congrArg (Double.finite false) (Magnitude.ext hm))⟩
  | infinite => cases hfinite

theorem isUnsigned_mul_thousand (h : a.IsUnsigned) : (a.mul (ofWhole 1000)).IsUnsigned := by
  obtain ⟨m, hm, hpos⟩ := ofWhole_thousand
  rw [hm]
  cases h with
  | finite n =>
    rw [mul, bne_self_eq_false]
    exact isUnsigned_ofRatio _ _
  | infinite =>
    rw [mul, if_neg hpos]
    exact .infinite

end Double

/-- **A duration has no sign** if its readings are finite and the second is not the smaller one. -/
theorem isUnsigned_elapsedMillis {started stopped : Double} (hstarted : started.isFinite = true)
    (hstopped : stopped.isFinite = true) (hle : stopped.lt started = false)
    (hzero : stopped = Double.zero.neg → started = Double.zero.neg) :
    (Clock.elapsedMillis started stopped).IsUnsigned :=
  Double.isUnsigned_mul_thousand (Double.isUnsigned_sub hstarted hstopped hle hzero)

/-! ### Statistics -/

namespace LatencyStats

/-- The statistics of some durations. -/
def ofDurations (durations : List Double) : LatencyStats := durations.foldl record empty

/-- Of more durations each part of the statistics is what it would be alone. -/
theorem foldl_record (durations : List Double) (stats : LatencyStats) :
    durations.foldl record stats =
      { count := stats.count + durations.length
        total := durations.foldl Double.add stats.total
        min := durations.foldl Double.min stats.min
        max := durations.foldl Double.max stats.max } := by
  induction durations generalizing stats with
  | nil => rfl
  | cons d durations ih =>
    rw [List.foldl_cons, ih, List.length_cons]
    simp only [record, List.foldl_cons, mk.injEq, and_true]
    omega

theorem ofDurations_eq (durations : List Double) :
    ofDurations durations =
      { count := durations.length
        total := durations.foldl Double.add .zero
        min := durations.foldl Double.min (.infinite false)
        max := durations.foldl Double.max .zero } := by
  rw [ofDurations, foldl_record]
  simp only [empty, Nat.zero_add]

theorem count_ofDurations (durations : List Double) :
    (ofDurations durations).count = durations.length :=
  congrArg count (ofDurations_eq durations)

/-- The statistics have the smallest and the largest of some durations, none of which is
negative. -/
structure Spans (stats : LatencyStats) (durations : List Double) : Prop where
  least : stats.min ∈ durations
  greatest : stats.max ∈ durations
  between : ∀ d ∈ durations, stats.min.Le d ∧ d.Le stats.max
  nonneg : Double.zero.Le stats.min

/-- **Statistics of durations without a sign** have the smallest and the largest of them. -/
theorem spans_ofDurations {durations : List Double} (hne : durations ≠ [])
    (h : ∀ d ∈ durations, d.IsUnsigned) : (ofDurations durations).Spans durations := by
  obtain ⟨d, hd⟩ := List.exists_mem_of_ne_nil durations hne
  have htop : (Double.infinite false).IsUnsigned := .infinite
  have hzero : Double.zero.IsUnsigned := .finite .zero
  obtain ⟨hmin, hmin_le⟩ := Double.picks_min.foldl htop h
  obtain ⟨hmax, hle_max⟩ := Double.picks_max.foldl hzero h
  have hleast : durations.foldl Double.min (.infinite false) ∈ durations := by
    rcases List.mem_cons.1 hmin with heq | hmem
    · -- the smallest is infinite, and so are all
      have hlevel := hmin_le d (List.mem_cons_of_mem _ hd)
      rw [heq] at hlevel ⊢
      rwa [htop.eq_of_level (h d hd) (le_antisymm hlevel le_top)]
    · exact hmem
  have hgreatest : durations.foldl Double.max .zero ∈ durations := by
    rcases List.mem_cons.1 hmax with heq | hmem
    · -- the largest is zero, and so are all
      have hlevel := hle_max d (List.mem_cons_of_mem _ hd)
      rw [heq] at hlevel ⊢
      rwa [hzero.eq_of_level (h d hd) (le_antisymm zero_le hlevel)]
    · exact hmem
  rw [ofDurations_eq]
  refine ⟨hleast, hgreatest, fun d hd => ⟨?_, ?_⟩, ?_⟩
  · exact ((h _ hleast).le_iff (h d hd)).2 (hmin_le d (List.mem_cons_of_mem _ hd))
  · exact ((h d hd).le_iff (h _ hgreatest)).2 (hle_max d (List.mem_cons_of_mem _ hd))
  · exact (hzero.le_iff (h _ hleast)).2 zero_le

end LatencyStats

end MetricIntake
