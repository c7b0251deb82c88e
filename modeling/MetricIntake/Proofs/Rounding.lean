import MetricIntake.Double.Decimal
import Mathlib.Data.Rat.Cast.Order
import Mathlib.Tactic.FieldSimp
import Mathlib.Tactic.Ring

/-!
# Rounding and shortest digits

Rounding depends on the value of a ratio alone (`nearestUnits_congr`), and what a double can hold
is its own rounding (`nearestUnits_mul_self`).  The places at which `Decimal.toDouble` stops early
are far enough out to change nothing (`Decimal.toDouble_eq_ofRatio`), so the double of a decimal is
a function of its sign and its `Decimal.size` (`Decimal.toDouble_congr`).

`Magnitude.shortest_reads` says that the digits found by the search over grids read back, from
which follows `Double.toDouble_decimal`: the double nearest to the shortest digits of a double is
that double.
-/

namespace MetricIntake

/-! ### Quotients -/

/-- The nearest whole number does not depend on how the ratio is written. -/
theorem divNearest_mul (num den : Nat) {k : Nat} (hk : 0 < k) :
    divNearest (num * k) (den * k) = divNearest num den := by
  have twice : 2 * (num % den * k) = 2 * (num % den) * k := (Nat.mul_assoc ..).symm
  have below : 2 * (num % den) * k < den * k ↔ 2 * (num % den) < den := Nat.mul_lt_mul_right hk
  have above : den * k < 2 * (num % den) * k ↔ den < 2 * (num % den) := Nat.mul_lt_mul_right hk
  unfold divNearest
  simp only [Nat.mul_div_mul_right _ _ hk, Nat.mul_mod_mul_right, twice, below, above]

/-- A quotient is at most the whole number nearest to it. -/
theorem le_divNearest (num den : Nat) : num / den ≤ divNearest num den := by
  unfold divNearest
  simp only
  split
  · omega
  · split
    · omega
    · split <;> omega

/-- A whole quotient is the whole number nearest to it. -/
theorem divNearest_mul_self (n : Nat) {den : Nat} (h : 0 < den) :
    divNearest (n * den) den = n := by
  have hq : n * den / den = n := Nat.mul_div_cancel _ h
  have hr : n * den % den = 0 := Nat.mul_mod_left _ _
  unfold divNearest
  simp only [hq, hr, Nat.mul_zero, h, ↓reduceIte]

/-! ### Units -/

/-- The nearest units do not depend on how the ratio is written. -/
theorem nearestUnits_mul (num den : Nat) {k : Nat} (hk : 0 < k) :
    nearestUnits (num * k) (den * k) = nearestUnits num den := by
  unfold nearestUnits
  simp only [Nat.mul_div_mul_right _ _ hk]
  rw [Nat.mul_right_comm den k, divNearest_mul _ _ hk]

/-- Ratios of one value have the same nearest units. -/
theorem nearestUnits_congr {num den num' den' : Nat} (hden : 0 < den) (hden' : 0 < den')
    (h : num * den' = num' * den) : nearestUnits num den = nearestUnits num' den' := by
  rw [← nearestUnits_mul num den hden', h, Nat.mul_comm den den', nearestUnits_mul _ _ hden]

/-- The surplus bits of what a double can hold are zeros. -/
theorem two_pow_surplusBits_dvd {n : Nat} (h : Representable n) :
    Nat.pow 2 (surplusBits n) ∣ n := by
  obtain ⟨significand, scale, hs, -, rfl⟩ := h
  unfold surplusBits
  simp only [Nat.pow_eq] at hs ⊢
  split
  · exact Nat.one_dvd _
  · rename_i hn
    have hne : significand * 2 ^ scale ≠ 0 := by
      intro h0
      exact hn (h0 ▸ Nat.two_pow_pos 53)
    have hlt : significand * 2 ^ scale < 2 ^ (53 + scale) := by
      rw [Nat.pow_add]
      exact Nat.mul_lt_mul_of_pos_right hs (Nat.two_pow_pos _)
    have hlog : (significand * 2 ^ scale).log2 < 53 + scale := (Nat.log2_lt hne).2 hlt
    exact Nat.dvd_trans (Nat.pow_dvd_pow 2 (by omega)) (Nat.dvd_mul_left _ _)

/-- **What a double can hold is its own rounding**, however the ratio is written. -/
theorem nearestUnits_mul_self {n den : Nat} (h : Representable n) (hden : 0 < den) :
    nearestUnits (n * den) den = n := by
  have hone : nearestUnits (n * den) (1 * den) = nearestUnits n 1 := nearestUnits_mul n 1 hden
  rw [Nat.one_mul] at hone
  rw [hone]
  obtain ⟨c, hc⟩ := two_pow_surplusBits_dvd h
  unfold nearestUnits
  simp only [Nat.div_one, Nat.one_mul]
  generalize hp : Nat.pow 2 (surplusBits n) = p at hc
  have hpos : 0 < p := hp ▸ Nat.two_pow_pos _
  have hdiv : divNearest n p = c := by
    rw [hc, Nat.mul_comm]
    exact divNearest_mul_self c hpos
  rw [hdiv, hc, Nat.mul_comm]

/-- A rounding has no fewer bits than the quotient. -/
theorem two_pow_log2_le_nearestUnits {num den : Nat} (h : num / den ≠ 0) :
    Nat.pow 2 (num / den).log2 ≤ nearestUnits num den := by
  unfold nearestUnits
  simp only
  refine Nat.le_trans ?_ (Nat.mul_le_mul_right _ (le_divNearest _ _))
  rw [← Nat.div_div_eq_div_mul]
  generalize num / den = q at h ⊢
  have hlog := Nat.log2_self_le h
  unfold surplusBits
  simp only [Nat.pow_eq]
  split
  · simpa using hlog
  · rename_i hq
    have h52 : 52 ≤ q.log2 := (Nat.le_log2 h).2 (by omega)
    have hsplit : 2 ^ q.log2 = 2 ^ 52 * 2 ^ (q.log2 - 52) := by
      rw [← Nat.pow_add]
      congr 1
      omega
    have htop : 2 ^ 52 ≤ q / 2 ^ (q.log2 - 52) := by
      rw [Nat.le_div_iff_mul_le (Nat.two_pow_pos _), ← hsplit]
      exact hlog
    calc 2 ^ q.log2 = 2 ^ 52 * 2 ^ (q.log2 - 52) := hsplit
      _ ≤ q / 2 ^ (q.log2 - 52) * 2 ^ (q.log2 - 52) := Nat.mul_le_mul_right _ htop

/-- The limit as one power of two. -/
theorem unitsLimit_eq : unitsLimit = 2 ^ (53 + topScale) := by
  unfold unitsLimit
  -- The value of the top scale does not matter, and powers of it are not to be evaluated.
  generalize topScale = top
  exact (Nat.pow_add 2 53 top).symm

/-- What is at or above the limit stays there. -/
theorem unitsLimit_le_nearestUnits {num den : Nat} (hden : 0 < den)
    (h : unitsLimit * den ≤ num) : unitsLimit ≤ nearestUnits num den := by
  have hq : unitsLimit ≤ num / den := (Nat.le_div_iff_mul_le hden).2 h
  rw [unitsLimit_eq] at hq ⊢
  generalize 53 + topScale = top at hq ⊢
  have hne : num / den ≠ 0 := by
    have := Nat.two_pow_pos top
    omega
  refine Nat.le_trans ?_ (two_pow_log2_le_nearestUnits hne)
  exact Nat.pow_le_pow_right (by decide) ((Nat.le_log2 hne).2 hq)

/-- Less than half a unit rounds to nothing. -/
theorem nearestUnits_eq_zero {num den : Nat} (h : 2 * num < den) : nearestUnits num den = 0 := by
  have hq : num / den = 0 := Nat.div_eq_of_lt (by omega)
  have hr : num % den = num := Nat.mod_eq_of_lt (by omega)
  unfold nearestUnits
  simp only [hq, surplusBits, Nat.pow_eq, Nat.two_pow_pos, ↓reduceIte, Nat.pow_zero, Nat.mul_one]
  simp only [divNearest, hq, hr, h, ↓reduceIte]

/-! ### The double of a ratio -/

/-- The double of a ratio whose nearest units are known. -/
theorem Double.ofRatio_of_nearestUnits {num den : Nat} (negative : Bool) (m : Magnitude)
    (h : nearestUnits num den = m.units) : ofRatio negative num den = .finite negative m := by
  have hlt : nearestUnits num den < unitsLimit := by
    obtain ⟨significand, scale, hs, hscale, hm⟩ := m.representable
    rw [h, hm]
    unfold unitsLimit
    generalize topScale = top at hscale ⊢
    exact Nat.mul_lt_mul_of_lt_of_le hs (Nat.pow_le_pow_right (by decide) hscale)
      (Nat.two_pow_pos _)
  unfold ofRatio
  simp only [hlt, ↓reduceDIte]
  exact congrArg _ (Magnitude.ext h)

/-- The double of a ratio that is out of range. -/
theorem Double.ofRatio_of_unitsLimit_le {num den : Nat} (negative : Bool)
    (h : unitsLimit ≤ nearestUnits num den) : ofRatio negative num den = .infinite negative := by
  unfold ofRatio
  simp only [Nat.not_lt.2 h, ↓reduceDIte]

/-! ### Powers of ten -/

theorem tenDown_pos (k : Int) : 0 < tenDown k := Nat.pow_pos (by decide)

/-- One of the two powers is `1`, and their quotient is the power of ten. -/
theorem tenUp_div_tenDown (k : Int) : (tenUp k : ℚ) / tenDown k = (10 : ℚ) ^ k := by
  unfold tenUp tenDown
  simp only [Nat.pow_eq, Nat.cast_pow, Nat.cast_ofNat]
  rcases Int.le_total 0 k with hk | hk
  · have h : ((k.toNat : Nat) : Int) = k := Int.toNat_of_nonneg hk
    rw [Int.toNat_eq_zero.2 (Int.neg_nonpos_of_nonneg hk), pow_zero, div_one, ← zpow_natCast, h]
  · have h : (((-k).toNat : Nat) : Int) = -k := Int.toNat_of_nonneg (by omega)
    rw [Int.toNat_of_nonpos hk, pow_zero, one_div, ← zpow_natCast, h, zpow_neg, inv_inv]

namespace Decimal

/-! ### The double of a decimal -/

/-- The absolute value of a decimal. -/
def size (d : Decimal) : ℚ := d.digits * (10 : ℚ) ^ d.exponent

/-- The size as the ratio that is rounded. -/
theorem size_eq_div (d : Decimal) :
    d.size = (d.digits * tenUp d.exponent : Nat) / (tenDown d.exponent : Nat) := by
  rw [size, ← tenUp_div_tenDown, Nat.cast_mul, mul_div_assoc]

/-- A decimal whose leading digit is at a place is no less than the power of ten there. -/
theorem ten_pow_le_of_placeBelow {d : Decimal} (h0 : d.digits ≠ 0) {place : Nat}
    (h : place ≤ placeBelow d.digits + d.exponent) :
    10 ^ place * tenDown d.exponent ≤ d.digits * tenUp d.exponent :=
  calc 10 ^ place * tenDown d.exponent
      = 10 ^ (place + (-d.exponent).toNat) := (Nat.pow_add ..).symm
    _ ≤ 10 ^ (placeBelow d.digits + d.exponent.toNat) :=
      Nat.pow_le_pow_right (by decide) (by omega)
    _ = 10 ^ placeBelow d.digits * tenUp d.exponent := Nat.pow_add ..
    _ ≤ d.digits * tenUp d.exponent := Nat.mul_le_mul_right _ (ten_pow_placeBelow_le h0)

/-- A decimal that does not reach a place behind the point is less than the power of ten there. -/
theorem mul_ten_pow_lt_of_placeAbove {d : Decimal} {place : Nat}
    (h : placeAbove d.digits + d.exponent ≤ -place) :
    d.digits * tenUp d.exponent * 10 ^ place < tenDown d.exponent := by
  have hup : tenUp d.exponent = 1 := by
    unfold tenUp
    rw [Int.toNat_of_nonpos (by omega), Nat.pow_eq, Nat.pow_zero]
  rw [hup, Nat.mul_one]
  calc d.digits * 10 ^ place
      < 10 ^ placeAbove d.digits * 10 ^ place :=
        Nat.mul_lt_mul_of_pos_right (lt_ten_pow_placeAbove _) (Nat.pow_pos (by decide))
    _ = 10 ^ (placeAbove d.digits + place) := (Nat.pow_add ..).symm
    _ ≤ tenDown d.exponent := Nat.pow_le_pow_right (by decide) (by omega)

/-- From `upperPlace` on a decimal is out of range. -/
theorem unitsLimit_le_of_upperPlace {d : Decimal} (h0 : d.digits ≠ 0)
    (h : upperPlace ≤ placeBelow d.digits + d.exponent) :
    unitsLimit ≤ nearestUnits (d.digits * tenUp d.exponent * unitsPerOne) (tenDown d.exponent) := by
  have hrange : unitsLimit ≤ 10 ^ 310 * unitsPerOne := by decide +kernel
  have hplace := ten_pow_le_of_placeBelow h0 h
  generalize 10 ^ 310 = bound at hrange hplace
  refine unitsLimit_le_nearestUnits (tenDown_pos _) ?_
  refine Nat.le_trans (Nat.mul_le_mul_right _ hrange) ?_
  rw [Nat.mul_right_comm]
  exact Nat.mul_le_mul_right _ hplace

/-- Up to `lowerPlace` a decimal is less than half a unit. -/
theorem nearestUnits_of_lowerPlace {d : Decimal}
    (h : placeAbove d.digits + d.exponent ≤ lowerPlace) :
    nearestUnits (d.digits * tenUp d.exponent * unitsPerOne) (tenDown d.exponent) = 0 := by
  have hrange : 2 * unitsPerOne ≤ 10 ^ 330 := by decide +kernel
  have hplace := mul_ten_pow_lt_of_placeAbove h
  generalize 10 ^ 330 = bound at hrange hplace
  refine nearestUnits_eq_zero (Nat.lt_of_le_of_lt ?_ hplace)
  rw [Nat.mul_left_comm]
  exact Nat.mul_le_mul_left _ hrange

/-- **The double of a decimal is its value rounded**: the two places at which the rounding is not
carried out settle what it would come to. -/
theorem toDouble_eq_ofRatio (d : Decimal) :
    d.toDouble = .ofRatio d.negative (d.digits * tenUp d.exponent * unitsPerOne)
      (tenDown d.exponent) := by
  unfold toDouble
  split
  · rename_i h0
    refine (Double.ofRatio_of_nearestUnits _ .zero ?_).symm
    rw [h0, Nat.zero_mul, Nat.zero_mul]
    exact nearestUnits_eq_zero (tenDown_pos _)
  · rename_i h0
    split
    · rename_i hup
      exact (Double.ofRatio_of_unitsLimit_le _ (unitsLimit_le_of_upperPlace h0 hup)).symm
    · split
      · rename_i hdown
        exact (Double.ofRatio_of_nearestUnits _ .zero (nearestUnits_of_lowerPlace hdown)).symm
      · rfl

/-- **Decimals of one sign and size have the same double.** -/
theorem toDouble_congr {d e : Decimal} (hsign : d.negative = e.negative) (h : d.size = e.size) :
    d.toDouble = e.toDouble := by
  have hcross : d.digits * tenUp d.exponent * tenDown e.exponent =
      e.digits * tenUp e.exponent * tenDown d.exponent := by
    rw [size_eq_div, size_eq_div, div_eq_div_iff (Nat.cast_ne_zero.2 (tenDown_pos _).ne')
      (Nat.cast_ne_zero.2 (tenDown_pos _).ne')] at h
    exact_mod_cast h
  have hunits : nearestUnits (d.digits * tenUp d.exponent * unitsPerOne) (tenDown d.exponent) =
      nearestUnits (e.digits * tenUp e.exponent * unitsPerOne) (tenDown e.exponent) :=
    nearestUnits_congr (tenDown_pos _) (tenDown_pos _) (by
      rw [Nat.mul_right_comm, hcross, Nat.mul_right_comm])
  rw [toDouble_eq_ofRatio, toDouble_eq_ofRatio, hsign]
  unfold Double.ofRatio
  simp only [hunits]

/-! ### Zeros at the end -/

/-- Removing zeros moves the exponent by as many places. -/
theorem size_dropZerosFrom (fuel digits : Nat) (exponent : Int) :
    ((dropZerosFrom fuel digits exponent).1 : ℚ) *
      (10 : ℚ) ^ (dropZerosFrom fuel digits exponent).2 = digits * (10 : ℚ) ^ exponent := by
  induction fuel generalizing digits exponent with
  | zero => rfl
  | succ fuel ih =>
    rw [dropZerosFrom]
    split
    · rename_i h
      have hdigits : digits = digits / 10 * 10 := by omega
      have hcast : (digits : ℚ) = ((digits / 10 : Nat) : ℚ) * 10 := by exact_mod_cast hdigits
      rw [ih, zpow_add_one₀ (by norm_num), hcast]
      ring
    · rfl

/-- Zeros at the end do not count. -/
theorem size_dropZeros (d : Decimal) : d.dropZeros.size = d.size :=
  size_dropZerosFrom d.digits d.digits d.exponent

end Decimal

/-! ### Shortest digits -/

namespace Magnitude

/-- A point that a grid offers reads back. -/
theorem reads_of_gridPoint? {m : Magnitude} {k : Int} {c : Nat} (h : m.gridPoint? k = some c) :
    m.reads k c = true := by
  unfold gridPoint? at h
  simp only at h
  generalize divNearest (m.units * tenDown k) (unitsPerOne * tenUp k) = near at h
  by_cases hnear : m.reads k near = true
  · rw [if_pos hnear] at h
    rwa [← Option.some.inj h]
  · rw [if_neg hnear, ite_eq_iff] at h
    rcases h with ⟨hfar, h⟩ | ⟨-, h⟩
    · rwa [← Option.some.inj h]
    · cases h

/-- The value itself reads back. -/
theorem reads_finestPoint (m : Magnitude) :
    m.reads m.finestPoint.2 m.finestPoint.1 = true := by
  have hten : Nat.pow 5 1074 * unitsPerOne = tenDown (-1074) := by decide +kernel
  have hup : tenUp (-1074) = 1 := rfl
  unfold reads finestPoint
  rw [beq_iff_eq, hup, Nat.mul_one, Nat.mul_assoc, hten]
  exact nearestUnits_mul_self m.representable (tenDown_pos _)

/-- Wherever the search starts, what it finds reads back if all points that are offered do. -/
theorem reads_searchGrids {m : Magnitude} {point? : Int → Option Nat} {finest : Nat × Int}
    (hpoint : ∀ k c, point? k = some c → m.reads k c = true)
    (hfinest : m.reads finest.2 finest.1 = true) (fuel : Nat) (k : Int) :
    m.reads (searchGrids point? finest fuel k).2 (searchGrids point? finest fuel k).1 = true := by
  induction fuel generalizing k with
  | zero => exact hfinest
  | succ fuel ih =>
    rw [searchGrids]
    cases h : point? k with
    | some c => exact hpoint k c h
    | none => exact ih (k - 1)

/-- **The shortest digits read back.** -/
theorem shortest_reads (m : Magnitude) : m.reads m.shortest.2 m.shortest.1 = true := by
  unfold shortest
  split
  · rename_i h0
    unfold reads
    rw [beq_iff_eq, h0, Nat.zero_mul, Nat.zero_mul]
    exact nearestUnits_eq_zero (tenDown_pos _)
  · exact reads_searchGrids (fun _ _ => reads_of_gridPoint?) m.reads_finestPoint _ _

end Magnitude

namespace Double

/-- **A double is the one nearest to its shortest digits.** -/
theorem toDouble_decimal (negative : Bool) (m : Magnitude) :
    (decimal negative m).toDouble = .finite negative m := by
  have hshort : (decimal negative m).toDouble =
      Decimal.toDouble { negative, digits := m.shortest.1, exponent := m.shortest.2 } :=
    Decimal.toDouble_congr rfl (Decimal.size_dropZeros _)
  rw [hshort, Decimal.toDouble_eq_ofRatio]
  exact ofRatio_of_nearestUnits negative m (beq_iff_eq.1 m.shortest_reads)

/-- Only zero has the digit zero. -/
theorem digits_decimal_eq_zero_iff (negative : Bool) (m : Magnitude) :
    (decimal negative m).digits = 0 ↔ m.units = 0 := by
  constructor
  · intro h
    have hread := toDouble_decimal negative m
    rw [Decimal.toDouble, if_pos h] at hread
    exact (congrArg Magnitude.units (Double.finite.inj hread).2).symm
  · intro h
    have hshort : m.shortest = (0, 0) := by
      unfold Magnitude.shortest
      rw [if_pos h]
    unfold decimal
    rw [hshort]
    rfl

end Double

end MetricIntake
