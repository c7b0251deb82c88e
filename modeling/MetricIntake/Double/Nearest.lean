import MetricIntake.Double.Basic

/-!
# The nearest double

Rounding of a ratio of whole numbers to the nearest double, a tie going to the neighbour whose last
bit is zero: `divNearest` for whole quotients, `nearestUnits` for 53 bits, `Double.ofRatio` for
doubles.  `representable_nearestUnits` says that the outcome is a double below `unitsLimit`.
-/

namespace MetricIntake

/-- The whole number nearest to `num / den`; of two equally near ones the even one. -/
def divNearest (num den : Nat) : Nat :=
  let q := num / den
  let r := num % den
  if 2 * r < den then q
  else if den < 2 * r then q + 1
  else if q % 2 = 0 then q
  else q + 1

/-- How many low bits of a whole number fall outside its 53 leading ones. -/
def surplusBits (n : Nat) : Nat :=
  if n < Nat.pow 2 53 then 0 else n.log2 - 52

/-- The number of units nearest to `num / den` that 53 bits and zeros behind them can write; of two
equally near ones the one with the even last bit. -/
def nearestUnits (num den : Nat) : Nat :=
  let scale := surplusBits (num / den)
  divNearest num (den * Nat.pow 2 scale) * Nat.pow 2 scale

/-- A quotient is at most one below the whole number nearest to it. -/
theorem divNearest_le (num den : Nat) : divNearest num den ≤ num / den + 1 := by
  unfold divNearest
  simp only
  split
  · omega
  · split
    · omega
    · split <;> omega

/-- Without its surplus bits a number is below `2 ^ 53`. -/
theorem div_surplusBits_lt (n : Nat) : n / Nat.pow 2 (surplusBits n) < Nat.pow 2 53 := by
  unfold surplusBits
  simp only [Nat.pow_eq]
  split
  · rename_i h
    simpa using h
  · rename_i h
    have hn : n ≠ 0 := by omega
    have h52 : 52 ≤ n.log2 := (Nat.le_log2 hn).2 (by omega)
    have hlt : n < 2 ^ (n.log2 + 1) := Nat.lt_log2_self
    rw [Nat.div_lt_iff_lt_mul (Nat.two_pow_pos _), ← Nat.pow_add]
    have : 53 + (n.log2 - 52) = n.log2 + 1 := by omega
    rwa [this]

/-- At most `2 ^ 53` shifted up is a double as long as it stays below the limit. -/
theorem representable_mul_two_pow {r s : Nat} (hr : r ≤ Nat.pow 2 53)
    (h : r * Nat.pow 2 s < unitsLimit) : Representable (r * Nat.pow 2 s) := by
  unfold unitsLimit at h
  unfold Representable
  -- The value of the top scale does not matter, and powers of it are not to be evaluated.
  generalize topScale = top at h ⊢
  simp only [Nat.pow_eq] at h hr ⊢
  rcases Nat.lt_or_ge top s with hs | hs
  · have shift : r * 2 ^ s = r * 2 ^ (s - top) * 2 ^ top := by
      rw [Nat.mul_assoc, ← Nat.pow_add, Nat.sub_add_cancel (Nat.le_of_lt hs)]
    rw [shift] at h ⊢
    exact ⟨r * 2 ^ (s - top), top, Nat.lt_of_mul_lt_mul_right h, Nat.le_refl _, rfl⟩
  · rcases Nat.lt_or_eq_of_le hr with hlt | heq
    · exact ⟨r, s, hlt, hs, rfl⟩
    · rw [heq] at h ⊢
      have hs' : s < top :=
        (Nat.pow_lt_pow_iff_right (by decide)).1 (Nat.lt_of_mul_lt_mul_left h)
      refine ⟨2 ^ 52, s + 1, by decide, hs', ?_⟩
      rw [← Nat.pow_add, ← Nat.pow_add, show 53 + s = 52 + (s + 1) by omega]

/-- A rounded number of units below the limit is one that a double can hold. -/
theorem representable_nearestUnits (num den : Nat) (h : nearestUnits num den < unitsLimit) :
    Representable (nearestUnits num den) := by
  refine representable_mul_two_pow (Nat.le_trans (divNearest_le _ _) ?_) h
  rw [← Nat.div_div_eq_div_mul]
  exact div_surplusBits_lt _

/-- The double nearest to `± num / den` units; an infinity where that is out of range. -/
def Double.ofRatio (negative : Bool) (num den : Nat) : Double :=
  let u := nearestUnits num den
  if h : u < unitsLimit then .finite negative ⟨u, representable_nearestUnits num den h⟩
  else .infinite negative

end MetricIntake
