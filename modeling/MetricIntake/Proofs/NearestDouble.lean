import MetricIntake.Proofs.NumeralGrammar
import MetricIntake.Proofs.Rounding
import Mathlib.Algebra.Order.Field.Basic
import Mathlib.Tactic.Linarith

/-!
# The nearest double

`Magnitude.IsNearest` says of a magnitude that no other is nearer to a number, and that of two
equally near ones it is the one whose last bit is zero.  No two magnitudes are nearest to one number
(`Magnitude.IsNearest.unique`), since between two whose last bits are zeros there is a third.

`Magnitude.isNearest_of_nearestUnits` says that rounding finds the nearest magnitude, and
`nearestUnits_lt_unitsLimit_iff` where it leaves the range: half a place above the largest double.
Both together are `Decimal.toDouble_eq_finite_iff`.  With signs the nearest double is the one that
the decimal `Decimal.RoundsTo`.
-/

namespace MetricIntake

/-- The absolute value of a finite double. -/
def Magnitude.size (m : Magnitude) : ℚ := m.units / unitsPerOne

/-- The last bit is zero: an even number of at most 53 bits and zeros behind them make up the
units. -/
def Magnitude.IsEven (m : Magnitude) : Prop :=
  ∃ half scale, half < Nat.pow 2 52 ∧ m.units = 2 * half * Nat.pow 2 scale

/-- No magnitude is nearer to a number, and if another is as near, this is the even one. -/
structure Magnitude.IsNearest (m : Magnitude) (size : ℚ) : Prop where
  near : ∀ n : Magnitude, |m.size - size| ≤ |n.size - size|
  even : ∀ n : Magnitude, n ≠ m → |n.size - size| = |m.size - size| → m.IsEven

/-- A finite double as a number. -/
def Magnitude.signed (m : Magnitude) (negative : Bool) : ℚ :=
  (if negative then -1 else 1) * m.size

/-- A finite double with the sign of a decimal, to whose number no double is nearer, and if another
magnitude is as near, the last bit is zero. -/
structure Decimal.RoundsTo (d : Decimal) (negative : Bool) (m : Magnitude) : Prop where
  sign : negative = d.negative
  near : ∀ s n, |m.signed negative - d.value| ≤ |Magnitude.signed n s - d.value|
  even : ∀ s n, n ≠ m → |Magnitude.signed n s - d.value| = |m.signed negative - d.value| →
    m.IsEven

/-- Where numbers start that are too large for every double: half a place above the largest one. -/
def overflowSize : ℚ := 2 ^ 1024 - 2 ^ 970

theorem unitsPerOne_pos : 0 < unitsPerOne := by decide +kernel

/-- Zeros that are shifted in can be split off. -/
theorem mul_two_pow_eq {s k : Nat} (h : s ≤ k) (c : Nat) : c * 2 ^ k = c * 2 ^ (k - s) * 2 ^ s := by
  rw [Nat.mul_assoc, ← Nat.pow_add, Nat.sub_add_cancel h]

/-! ### One nearest magnitude -/

namespace Magnitude

theorem units_lt (m : Magnitude) : m.units < unitsLimit := by
  obtain ⟨significand, scale, hs, hscale, hm⟩ := m.representable
  rw [hm]
  unfold unitsLimit
  generalize topScale = top at hscale ⊢
  exact Nat.mul_lt_mul_of_lt_of_le hs (Nat.pow_le_pow_right (by decide) hscale)
    (Nat.two_pow_pos _)

theorem size_nonneg (m : Magnitude) : 0 ≤ m.size :=
  div_nonneg (Nat.cast_nonneg _) (Nat.cast_nonneg _)

theorem size_lt_size_iff {m n : Magnitude} : m.size < n.size ↔ m.units < n.units := by
  have hpos : (0 : ℚ) < unitsPerOne := Nat.cast_pos.2 unitsPerOne_pos
  unfold size
  rw [div_lt_div_iff_of_pos_right hpos, Nat.cast_lt]

/-- Between two even magnitudes there is a third. -/
theorem exists_between {m n : Magnitude} (hm : m.IsEven) (hn : n.IsEven)
    (h : m.units < n.units) : ∃ k : Magnitude, m.units < k.units ∧ k.units < n.units := by
  obtain ⟨a, i, ha, hma⟩ := hm
  obtain ⟨b, j, hb, hnb⟩ := hn
  have hlimit := n.units_lt
  simp only [Nat.pow_eq] at ha hb hma hnb
  rcases Nat.le_total i j with hij | hji
  · -- the first has the smaller places: one place above it
    rw [mul_two_pow_eq hij, Nat.mul_assoc 2] at hnb
    have hlt : 2 * a < 2 * (b * 2 ^ (j - i)) := by
      rw [hma, hnb] at h
      exact Nat.lt_of_mul_lt_mul_right h
    have habove : m.units < (2 * a + 1) * 2 ^ i := by
      rw [hma]
      exact Nat.mul_lt_mul_of_pos_right (Nat.lt_succ_self _) (Nat.two_pow_pos i)
    have hbelow : (2 * a + 1) * 2 ^ i < n.units := by
      rw [hnb]
      exact Nat.mul_lt_mul_of_pos_right (by omega) (Nat.two_pow_pos i)
    have hbits : 2 * a + 1 ≤ Nat.pow 2 53 := by
      simp only [Nat.pow_eq]
      omega
    exact ⟨⟨_, representable_mul_two_pow hbits (hbelow.trans hlimit)⟩, habove, hbelow⟩
  · -- the second has the smaller places: one place below it
    rw [mul_two_pow_eq hji, Nat.mul_assoc 2] at hma
    have hlt : 2 * (a * 2 ^ (i - j)) < 2 * b := by
      rw [hma, hnb] at h
      exact Nat.lt_of_mul_lt_mul_right h
    have habove : m.units < (2 * b - 1) * 2 ^ j := by
      rw [hma]
      exact Nat.mul_lt_mul_of_pos_right (by omega) (Nat.two_pow_pos j)
    have hbelow : (2 * b - 1) * 2 ^ j < n.units := by
      rw [hnb]
      exact Nat.mul_lt_mul_of_pos_right (by omega) (Nat.two_pow_pos j)
    have hbits : 2 * b - 1 ≤ Nat.pow 2 53 := by
      simp only [Nat.pow_eq]
      omega
    exact ⟨⟨_, representable_mul_two_pow hbits (hbelow.trans hlimit)⟩, habove, hbelow⟩

/-- What lies between two equally near numbers is nearer. -/
theorem abs_sub_lt_of_between {x y z q : ℚ} (hxy : x < y) (hyz : y < z)
    (h : |x - q| = |z - q|) : |y - q| < |x - q| := by
  rcases le_total q y with hq | hq
  · rw [h, abs_of_nonneg (by linarith), abs_of_nonneg (by linarith)]
    linarith
  · rw [abs_of_nonpos (by linarith), abs_of_nonpos (by linarith)]
    linarith

/-- **No two magnitudes are nearest to one number.** -/
theorem IsNearest.unique {m n : Magnitude} {q : ℚ} (hm : m.IsNearest q) (hn : n.IsNearest q) :
    m = n := by
  by_contra hne
  have hequal : |m.size - q| = |n.size - q| := le_antisymm (hm.near n) (hn.near m)
  have hmeven := hm.even n (Ne.symm hne) hequal.symm
  have hneven := hn.even m hne hequal
  rcases Nat.lt_trichotomy m.units n.units with h | h | h
  · obtain ⟨k, hmk, hkn⟩ := exists_between hmeven hneven h
    have hnearer := abs_sub_lt_of_between (size_lt_size_iff.2 hmk) (size_lt_size_iff.2 hkn) hequal
    exact absurd (hm.near k) (not_le.2 hnearer)
  · exact hne (Magnitude.ext h)
  · obtain ⟨k, hnk, hkm⟩ := exists_between hneven hmeven h
    have hnearer :=
      abs_sub_lt_of_between (size_lt_size_iff.2 hnk) (size_lt_size_iff.2 hkm) hequal.symm
    exact absurd (hn.near k) (not_le.2 hnearer)

end Magnitude

/-! ### The neighbours of a quotient -/

section Neighbours

variable (num den : Nat)

/-- The nearest whole number is one of the two neighbours of a quotient: which of them, the
remainder says. -/
theorem divNearest_cases :
    (divNearest num den = num / den ∧ 2 * (num % den) ≤ den ∨
        divNearest num den = num / den + 1 ∧ den ≤ 2 * (num % den)) ∧
      (2 * (num % den) = den → divNearest num den % 2 = 0) := by
  unfold divNearest
  dsimp only
  split_ifs <;> omega

/-- The size of a place of the 53 bits that a quotient is rounded to. -/
def placeOf : Nat := Nat.pow 2 (surplusBits (num / den))

theorem placeOf_pos : 0 < placeOf num den := Nat.two_pow_pos _

/-- The quotient without what is below its 53 bits. -/
def unitsBelow : Nat := num / (den * placeOf num den) * placeOf num den

theorem nearestUnits_eq :
    nearestUnits num den = divNearest num (den * placeOf num den) * placeOf num den :=
  rfl

/-- A quotient with surplus bits has all 53 bits in front of them. -/
theorem two_pow_le_of_surplusBits {p : Nat} (h : surplusBits p ≠ 0) :
    2 ^ 52 * 2 ^ surplusBits p ≤ p / 2 ^ surplusBits p * 2 ^ surplusBits p := by
  unfold surplusBits at h ⊢
  simp only [Nat.pow_eq] at h ⊢
  split at h
  · exact absurd rfl h
  · rename_i hp
    rw [if_neg hp]
    have hlog : 2 ^ p.log2 ≤ p := Nat.log2_self_le (by omega)
    have h52 : 52 + (p.log2 - 52) = p.log2 := by omega
    refine Nat.mul_le_mul_right _ ?_
    rwa [Nat.le_div_iff_mul_le (Nat.two_pow_pos _), ← Nat.pow_add, h52]

end Neighbours

/-- **No double lies between the neighbours of a quotient.** -/
theorem Representable.le_or_le {n : Nat} (h : Representable n) (num den : Nat) :
    n ≤ unitsBelow num den ∨ unitsBelow num den + placeOf num den ≤ n := by
  obtain ⟨c, k, hc, -, rfl⟩ := h
  unfold unitsBelow placeOf
  rw [← Nat.div_div_eq_div_mul]
  generalize num / den = p
  simp only [Nat.pow_eq] at hc ⊢
  rcases Nat.lt_or_ge k (surplusBits p) with hk | hk
  · -- with smaller places 53 bits do not reach the quotient
    left
    refine Nat.le_trans ?_ (two_pow_le_of_surplusBits (by omega))
    calc c * 2 ^ k ≤ 2 ^ 53 * 2 ^ k := Nat.mul_le_mul_right _ hc.le
      _ = 2 ^ (53 + k) := (Nat.pow_add 2 53 k).symm
      _ ≤ 2 ^ (52 + surplusBits p) := Nat.pow_le_pow_right (by decide) (by omega)
      _ = 2 ^ 52 * 2 ^ surplusBits p := Nat.pow_add 2 52 _
  · -- the places of the double are not smaller
    rw [mul_two_pow_eq hk, ← Nat.succ_mul]
    rcases Nat.lt_or_ge (p / 2 ^ surplusBits p) (c * 2 ^ (k - surplusBits p)) with hlt | hge
    · exact .inr (Nat.mul_le_mul_right _ hlt)
    · exact .inl (Nat.mul_le_mul_right _ hge)

/-! ### Rounding finds it -/

/-- The nearer one of two neighbours is as near as anything that does not lie between them, and
nothing else is as near unless the neighbours are equally near. -/
theorem near_of_neighbours {a b q r y : ℚ} (haq : a ≤ q) (hqb : q ≤ b)
    (hr : r = a ∧ q - a ≤ b - q ∨ r = b ∧ b - q ≤ q - a) (hy : y ≤ a ∨ b ≤ y) :
    |r - q| ≤ |y - q| ∧ (|y - q| = |r - q| → y = r ∨ q - a = b - q) := by
  have hleft {x : ℚ} (hx : x ≤ q) : |x - q| = q - x := by
    rw [abs_of_nonpos (sub_nonpos.2 hx), neg_sub]
  have hright {x : ℚ} (hx : q ≤ x) : |x - q| = x - q := abs_of_nonneg (sub_nonneg.2 hx)
  rcases hr with ⟨rfl, hr⟩ | ⟨rfl, hr⟩ <;> rcases hy with hy | hy
  · rw [hleft haq, hleft (hy.trans haq)]
    exact ⟨by linarith, fun h => .inl (by linarith)⟩
  · rw [hleft haq, hright (hqb.trans hy)]
    exact ⟨by linarith, fun h => .inr (by linarith)⟩
  · rw [hright hqb, hleft (hy.trans haq)]
    exact ⟨by linarith, fun h => .inr (by linarith)⟩
  · rw [hright hqb, hright (hqb.trans hy)]
    exact ⟨by linarith, fun h => .inl (by linarith)⟩

section Rounding

variable {num den : Nat}

/-- How far a quotient is from its neighbours, the remainder says. -/
theorem sub_unitsBelow (num : Nat) (hden : 0 < den) :
    ((num : ℚ) / den - unitsBelow num den) * den = (num % (den * placeOf num den) : Nat) ∧
      (unitsBelow num den + placeOf num den - (num : ℚ) / den) * den =
        (den * placeOf num den : Nat) - (num % (den * placeOf num den) : Nat) := by
  have hne : (den : ℚ) ≠ 0 := Nat.cast_ne_zero.2 hden.ne'
  have hdiv : ((den * placeOf num den : Nat) : ℚ) * (num / (den * placeOf num den) : Nat) +
      (num % (den * placeOf num den) : Nat) = num := by
    exact_mod_cast Nat.div_add_mod num (den * placeOf num den)
  unfold unitsBelow
  push_cast at hdiv ⊢
  constructor
  · rw [sub_mul, div_mul_cancel₀ _ hne]
    linarith
  · rw [sub_mul, div_mul_cancel₀ _ hne]
    linarith

/-- The remainder says which of its neighbours a quotient is nearer to. -/
theorem sub_unitsBelow_le_iff (num : Nat) (hden : 0 < den) :
    ((num : ℚ) / den - unitsBelow num den ≤ unitsBelow num den + placeOf num den - num / den ↔
        2 * (num % (den * placeOf num den)) ≤ den * placeOf num den) ∧
      (unitsBelow num den + placeOf num den - (num : ℚ) / den ≤ num / den - unitsBelow num den ↔
        den * placeOf num den ≤ 2 * (num % (den * placeOf num den))) := by
  obtain ⟨hlow, hhigh⟩ := sub_unitsBelow num hden
  have hpos : (0 : ℚ) < den := Nat.cast_pos.2 hden
  have htwice : ((2 * (num % (den * placeOf num den)) : Nat) : ℚ) =
      (num % (den * placeOf num den) : Nat) + (num % (den * placeOf num den) : Nat) := by
    rw [Nat.cast_mul, Nat.cast_ofNat, two_mul]
  constructor
  · rw [← mul_le_mul_iff_of_pos_right hpos, hlow, hhigh, ← @Nat.cast_le ℚ, htwice,
      le_sub_iff_add_le]
  · rw [← mul_le_mul_iff_of_pos_right hpos, hlow, hhigh, ← @Nat.cast_le ℚ, htwice,
      sub_le_iff_le_add]

/-- A quotient lies between its neighbours. -/
theorem unitsBelow_le (num : Nat) (hden : 0 < den) :
    (unitsBelow num den : ℚ) ≤ num / den ∧
      (num / den : ℚ) ≤ unitsBelow num den + placeOf num den := by
  obtain ⟨hlow, hhigh⟩ := sub_unitsBelow num hden
  have hpos : (0 : ℚ) < den := Nat.cast_pos.2 hden
  have hrem : num % (den * placeOf num den) ≤ den * placeOf num den :=
    (Nat.mod_lt _ (Nat.mul_pos hden (placeOf_pos num den))).le
  constructor
  · refine sub_nonneg.1 (nonneg_of_mul_nonneg_left ?_ hpos)
    rw [hlow]
    exact Nat.cast_nonneg _
  · refine sub_nonneg.1 (nonneg_of_mul_nonneg_left ?_ hpos)
    rw [hhigh, sub_nonneg]
    exact Nat.cast_le.2 hrem

/-- **Rounding finds the nearest units**, and an even number of places where two are equally
near. -/
theorem nearestUnits_near (hden : 0 < den) {n : Nat} (hn : Representable n) :
    |(nearestUnits num den : ℚ) - num / den| ≤ |(n : ℚ) - num / den| ∧
      (n ≠ nearestUnits num den →
        |(n : ℚ) - num / den| = |(nearestUnits num den : ℚ) - num / den| →
          divNearest num (den * placeOf num den) % 2 = 0) := by
  obtain ⟨hcases, htie⟩ := divNearest_cases num (den * placeOf num den)
  obtain ⟨hbelow, habove⟩ := unitsBelow_le num hden
  obtain ⟨hdown, hup⟩ := sub_unitsBelow_le_iff num hden
  have hr : (nearestUnits num den : ℚ) = unitsBelow num den ∧
        (num : ℚ) / den - unitsBelow num den ≤ unitsBelow num den + placeOf num den - num / den ∨
      (nearestUnits num den : ℚ) = unitsBelow num den + placeOf num den ∧
        unitsBelow num den + placeOf num den - (num : ℚ) / den ≤
          num / den - unitsBelow num den := by
    rw [hdown, hup, nearestUnits_eq, unitsBelow]
    refine hcases.imp (And.imp_left fun h => by rw [h]) (And.imp_left fun h => ?_)
    rw [h, Nat.succ_mul, Nat.cast_add]
  have hy : (n : ℚ) ≤ unitsBelow num den ∨ (unitsBelow num den + placeOf num den : ℚ) ≤ n := by
    exact_mod_cast hn.le_or_le num den
  obtain ⟨hnear, heq⟩ := near_of_neighbours hbelow habove hr hy
  refine ⟨hnear, fun hne h => htie ?_⟩
  have hmiddle := (heq h).resolve_left (by exact_mod_cast hne)
  exact Nat.le_antisymm (hdown.1 hmiddle.le) (hup.1 hmiddle.ge)

/-- The 53 bits that a quotient is rounded to, or one place more than they can write. -/
theorem divNearest_le_two_pow (num den : Nat) :
    divNearest num (den * placeOf num den) ≤ Nat.pow 2 53 := by
  refine Nat.le_trans (divNearest_le _ _) ?_
  unfold placeOf
  rw [← Nat.div_div_eq_div_mul]
  exact div_surplusBits_lt _

/-- **The magnitude of a rounding** is the nearest one. -/
theorem Magnitude.isNearest_of_nearestUnits (hden : 0 < den) {m : Magnitude}
    (hm : m.units = nearestUnits num den) : m.IsNearest (num / den / unitsPerOne) := by
  have hpos : (0 : ℚ) < unitsPerOne := Nat.cast_pos.2 unitsPerOne_pos
  have hdist (n : Magnitude) : |n.size - num / den / unitsPerOne| =
      |(n.units : ℚ) - num / den| / unitsPerOne := by
    rw [size, ← sub_div, abs_div, abs_of_pos hpos]
  refine ⟨fun n => ?_, fun n hne h => ?_⟩
  · rw [hdist, hdist, hm]
    exact div_le_div_of_nonneg_right (nearestUnits_near hden n.representable).1 hpos.le
  · rw [hdist, hdist, div_left_inj' hpos.ne', hm] at h
    have hunits : n.units ≠ nearestUnits num den := fun h => hne (Magnitude.ext (h.trans hm.symm))
    have heven := (nearestUnits_near hden n.representable).2 hunits h
    have hbits := divNearest_le_two_pow num den
    unfold IsEven
    rw [hm, nearestUnits_eq]
    generalize divNearest num (den * placeOf num den) = r at heven hbits ⊢
    unfold placeOf
    generalize surplusBits (num / den) = s
    simp only [Nat.pow_eq] at hbits ⊢
    rcases Nat.lt_or_eq_of_le hbits with hlt | rfl
    · exact ⟨r / 2, s, by omega, by rw [Nat.mul_div_cancel' (Nat.dvd_of_mod_eq_zero heven)]⟩
    · have hshift : 2 ^ 53 * 2 ^ s = 2 * 2 ^ 51 * 2 ^ (s + 1) := by
        rw [← Nat.pow_succ', ← Nat.pow_add, ← Nat.pow_add, show 53 + s = 51 + 1 + (s + 1) by omega]
      exact ⟨2 ^ 51, s + 1, by decide, hshift⟩

end Rounding

/-! ### The end of the range -/

/-- Within the range no places are larger than those of the largest doubles. -/
theorem surplusBits_le_topScale {p : Nat} (h : p < unitsLimit) : surplusBits p ≤ topScale := by
  rw [unitsLimit_eq] at h
  unfold surplusBits
  split
  · exact Nat.zero_le _
  · rename_i hp
    have hne : p ≠ 0 := by
      rintro rfl
      exact hp (Nat.two_pow_pos 53)
    have hlog : p.log2 < 53 + topScale := (Nat.log2_lt hne).2 h
    omega

/-- Numbers with as many bits as the largest doubles have their places. -/
theorem surplusBits_eq_topScale {p : Nat} (h : p < unitsLimit)
    (hlow : Nat.pow 2 52 * Nat.pow 2 topScale ≤ p) : surplusBits p = topScale := by
  refine Nat.le_antisymm (surplusBits_le_topScale h) ?_
  have htop : 1 ≤ topScale := by decide
  generalize topScale = top at hlow htop
  simp only [Nat.pow_eq, ← Nat.pow_add] at hlow
  have hne : p ≠ 0 := by
    have := Nat.two_pow_pos (52 + top)
    omega
  have hlog : 52 + top ≤ p.log2 := (Nat.le_log2 hne).2 hlow
  have hlarge : ¬ p < Nat.pow 2 53 := by
    intro hp
    have hsmall : p.log2 < 53 := (Nat.log2_lt hne).2 hp
    omega
  unfold surplusBits
  rw [if_neg hlarge]
  omega

/-- Half a place of the largest doubles. -/
def halfTopPlace : Nat := Nat.pow 2 2044

theorem two_pow_topScale : Nat.pow 2 topScale = 2 * halfTopPlace := by decide +kernel

/-- Below an even number of places rounding reaches it from half a place on. -/
theorem divNearest_eq_iff_of_even {num den k : Nat} (hk : k % 2 = 0) (h : num < k * den) :
    divNearest num den = k ↔ 2 * (k * den) ≤ 2 * num + den := by
  obtain ⟨hcases, htie⟩ := divNearest_cases num den
  have hden : 0 < den := Nat.pos_of_ne_zero (by rintro rfl; simp at h)
  have hdiv := Nat.div_add_mod num den
  have hrem := Nat.mod_lt num hden
  have hq : num / den + 1 ≤ k := (Nat.div_lt_iff_lt_mul hden).2 h
  generalize num / den = q at *
  generalize num % den = rem at *
  obtain ⟨gap, rfl⟩ := Nat.exists_eq_add_of_le hq
  have hexpand : (q + 1 + gap) * den = den * q + den + gap * den := by ring
  rw [hexpand]
  rcases Nat.eq_zero_or_pos gap with rfl | hgap
  · rw [Nat.zero_mul]
    omega
  · have hwide : den ≤ gap * den := Nat.le_mul_of_pos_left den hgap
    omega

/-- **Rounding stays in the range** just below the point half a place above the largest double. -/
theorem nearestUnits_lt_unitsLimit_iff {num den : Nat} (hden : 0 < den) :
    nearestUnits num den < unitsLimit ↔ num + halfTopPlace * den < unitsLimit * den := by
  have hhalf : 0 < halfTopPlace * den := Nat.mul_pos (by decide +kernel) hden
  have hlimit : unitsLimit * den = Nat.pow 2 53 * (den * Nat.pow 2 topScale) := by
    rw [unitsLimit, Nat.mul_assoc, Nat.mul_comm den]
  have htop : den * Nat.pow 2 topScale = 2 * (halfTopPlace * den) := by
    rw [two_pow_topScale, Nat.mul_comm den, Nat.mul_assoc]
  rcases Nat.lt_or_ge num (unitsLimit * den) with hnum | hnum
  · have hp : num / den < unitsLimit := (Nat.div_lt_iff_lt_mul hden).2 hnum
    have hbits := divNearest_le_two_pow num den
    rw [nearestUnits_eq]
    unfold placeOf at hbits ⊢
    rcases Nat.lt_or_eq_of_le (surplusBits_le_topScale hp) with hs | hs
    · -- the places are smaller than the largest ones, and the number is far from the limit
      have hfar : num < Nat.pow 2 52 * Nat.pow 2 topScale * den :=
        (Nat.div_lt_iff_lt_mul hden).1 (Nat.not_le.1 fun h => hs.ne (surplusBits_eq_topScale hp h))
      have hplace : Nat.pow 2 (surplusBits (num / den)) < Nat.pow 2 topScale := by
        generalize topScale = top at hs ⊢
        exact Nat.pow_lt_pow_right (by decide) hs
      have hunits := Nat.mul_lt_mul_of_le_of_lt hbits hplace (Nat.two_pow_pos 53)
      rw [Nat.mul_assoc, Nat.mul_comm _ den, htop] at hfar
      rw [hlimit, htop, unitsLimit]
      refine iff_of_true hunits ?_
      simp only [Nat.pow_eq] at hfar ⊢
      omega
    · -- all 53 bits are ones, or the place above them is reached
      rw [hs] at hbits ⊢
      rw [hlimit] at hnum ⊢
      have hround := divNearest_eq_iff_of_even rfl hnum
      have hunits : divNearest num (den * Nat.pow 2 topScale) * Nat.pow 2 topScale < unitsLimit ↔
          divNearest num (den * Nat.pow 2 topScale) ≠ Nat.pow 2 53 := by
        have hplace : 0 < Nat.pow 2 topScale := by decide +kernel
        rw [unitsLimit, Nat.mul_lt_mul_right hplace]
        exact ⟨Nat.ne_of_lt, Nat.lt_of_le_of_ne hbits⟩
      rw [hunits, Ne, hround, htop]
      simp only [Nat.pow_eq]
      omega
  · have hout := unitsLimit_le_nearestUnits hden hnum
    omega

/-! ### The double of a decimal -/

namespace Decimal

theorem size_nonneg (d : Decimal) : 0 ≤ d.size :=
  mul_nonneg (Nat.cast_nonneg _) (zpow_nonneg (by norm_num) _)

/-- The size of a decimal is the absolute value of its number. -/
theorem abs_value (d : Decimal) : |d.value| = d.size := by
  unfold value
  split
  · rw [neg_one_mul, neg_mul, abs_neg]
    exact abs_of_nonneg d.size_nonneg
  · rw [one_mul]
    exact abs_of_nonneg d.size_nonneg

/-- With the sign of the decimal the distance is that of the sizes. -/
theorem abs_signed_sub (d : Decimal) (m : Magnitude) :
    |m.signed d.negative - d.value| = |m.size - d.size| := by
  unfold Magnitude.signed value size
  split
  · rw [mul_assoc, ← mul_sub, neg_one_mul, abs_neg]
  · rw [one_mul, one_mul]

/-- With the other sign it is the sum of both. -/
theorem abs_signed_not_sub (d : Decimal) (m : Magnitude) :
    |m.signed (!d.negative) - d.value| = m.size + d.size := by
  have hsum : 0 ≤ m.size + d.size := add_nonneg m.size_nonneg d.size_nonneg
  unfold Magnitude.signed value
  cases d.negative
  · rw [← abs_of_nonneg hsum, ← abs_neg (m.size + d.size)]
    refine congrArg _ ?_
    simp only [Bool.not_false, if_true, Bool.false_eq_true, if_false, size]
    ring
  · rw [← abs_of_nonneg hsum]
    refine congrArg _ ?_
    simp only [Bool.not_true, if_true, Bool.false_eq_true, if_false, size]
    ring

/-- **A decimal rounds to** the nearest magnitude with its sign: the other sign is farther. -/
theorem roundsTo_iff {d : Decimal} {negative : Bool} {m : Magnitude} :
    d.RoundsTo negative m ↔ negative = d.negative ∧ m.IsNearest d.size := by
  constructor
  · rintro ⟨rfl, hnear, heven⟩
    refine ⟨rfl, fun n => ?_, fun n hne h => heven d.negative n hne ?_⟩
    · simpa only [abs_signed_sub] using hnear d.negative n
    · rwa [abs_signed_sub, abs_signed_sub]
  · rintro ⟨rfl, hm⟩
    have hother (n : Magnitude) : |n.size - d.size| ≤ n.size + d.size := by
      rw [abs_le]
      constructor <;> linarith [n.size_nonneg, d.size_nonneg]
    -- zero is as near as anything of the other sign, so what is as near as the nearest is zero
    have hzero := hm.near .zero
    have hunits : Magnitude.zero.units = 0 := rfl
    have hzero_size : Magnitude.zero.size = 0 := by
      rw [Magnitude.size, hunits, Nat.cast_zero, zero_div]
    rw [hzero_size, zero_sub, abs_neg, abs_of_nonneg d.size_nonneg] at hzero
    refine ⟨rfl, fun s n => ?_, fun s n hne h => ?_⟩
    · rcases Bool.eq_or_eq_not s d.negative with rfl | rfl
      · rw [abs_signed_sub, abs_signed_sub]
        exact hm.near n
      · rw [abs_signed_sub, abs_signed_not_sub]
        exact (hm.near n).trans (hother n)
    · rcases Bool.eq_or_eq_not s d.negative with rfl | rfl
      · rw [abs_signed_sub, abs_signed_sub] at h
        exact hm.even n hne h
      · rw [abs_signed_sub, abs_signed_not_sub] at h
        have hn : n.size = 0 := le_antisymm (by linarith) n.size_nonneg
        refine hm.even n hne ?_
        rw [← h, hn, zero_sub, abs_neg, zero_add, abs_of_nonneg d.size_nonneg]

/-- In units the limit is half a place below the first number that is too large. -/
theorem overflowSize_mul : overflowSize * unitsPerOne + halfTopPlace = unitsLimit := by
  have hunits : Nat.pow 2 1024 * unitsPerOne + halfTopPlace =
      unitsLimit + Nat.pow 2 970 * unitsPerOne := by
    decide +kernel
  have hcast {a b c d e : Nat} (h : Nat.pow 2 a * c + d = e + Nat.pow 2 b * c) :
      (2 : ℚ) ^ a * c + d = e + 2 ^ b * c := by
    rw [Nat.pow_eq, Nat.pow_eq] at h
    exact_mod_cast h
  rw [overflowSize, sub_mul, sub_add_eq_add_sub, hcast hunits, add_sub_cancel_right]

/-- A ratio of units as the size that is rounded. -/
theorem size_eq_units_div (d : Decimal) :
    d.size = (d.digits * tenUp d.exponent * unitsPerOne : Nat) / (tenDown d.exponent : Nat) /
      unitsPerOne := by
  have hne : (unitsPerOne : ℚ) ≠ 0 := Nat.cast_ne_zero.2 unitsPerOne_pos.ne'
  rw [size_eq_div, div_div, Nat.cast_mul _ unitsPerOne, mul_div_mul_right _ _ hne]

/-- **Decimals round to doubles** just below the limit. -/
theorem nearestUnits_lt_iff_size (d : Decimal) :
    nearestUnits (d.digits * tenUp d.exponent * unitsPerOne) (tenDown d.exponent) < unitsLimit ↔
      d.size < overflowSize := by
  have hden : (0 : ℚ) < tenDown d.exponent := Nat.cast_pos.2 (tenDown_pos _)
  have hone : (0 : ℚ) < unitsPerOne := Nat.cast_pos.2 unitsPerOne_pos
  rw [nearestUnits_lt_unitsLimit_iff (tenDown_pos _), size_eq_units_div, div_lt_iff₀ hone,
    ← add_lt_add_iff_right (halfTopPlace : ℚ), overflowSize_mul,
    ← mul_lt_mul_iff_of_pos_right hden, add_mul, div_mul_cancel₀ _ hden.ne']
  exact_mod_cast Iff.rfl

/-- **The double of a decimal** is finite just if its size is below the limit, and then it has the
sign of the decimal and the nearest magnitude. -/
theorem toDouble_eq_finite_iff {d : Decimal} {negative : Bool} {m : Magnitude} :
    d.toDouble = .finite negative m ↔
      d.size < overflowSize ∧ negative = d.negative ∧ m.IsNearest d.size := by
  have hrange := d.nearestUnits_lt_iff_size
  have hnear {n : Magnitude} (hn : n.units =
      nearestUnits (d.digits * tenUp d.exponent * unitsPerOne) (tenDown d.exponent)) :
      n.IsNearest d.size := by
    rw [size_eq_units_div]
    exact Magnitude.isNearest_of_nearestUnits (tenDown_pos _) hn
  rw [toDouble_eq_ofRatio]
  constructor
  · intro h
    unfold Double.ofRatio at h
    dsimp only at h
    split at h
    · rename_i hlt
      obtain ⟨rfl, rfl⟩ := Double.finite.inj h
      exact ⟨hrange.1 hlt, rfl, hnear rfl⟩
    · cases h
  · rintro ⟨hsize, rfl, hm⟩
    have hlt := hrange.2 hsize
    have hnearest := hnear (n := ⟨_, representable_nearestUnits _ _ hlt⟩) rfl
    exact Double.ofRatio_of_nearestUnits _ m (congrArg Magnitude.units (hnearest.unique hm))

/-- The double is finite just if the size is below the limit. -/
theorem isFinite_toDouble_iff {d : Decimal} :
    d.toDouble.isFinite = true ↔ d.size < overflowSize := by
  rw [toDouble_eq_ofRatio, ← nearestUnits_lt_iff_size]
  unfold Double.ofRatio
  dsimp only
  split <;> simp_all [Double.isFinite]

end Decimal

end MetricIntake
