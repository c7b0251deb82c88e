import MetricIntake.Double.Nearest

/-!
# Decimals and doubles

A `Decimal` is a signed whole number times a power of ten.  `Decimal.toDouble` is the nearest
double; `Magnitude.shortest` is a decimal on the coarsest grid of powers of ten that has a point
whose nearest double is the given one, so that it reads back.
-/

namespace MetricIntake

/-- A signed whole number of tenths, hundredths, …, ones, tens, …: `± digits · 10 ^ exponent`. -/
structure Decimal where
  /-- Below zero, or the negative zero. -/
  negative : Bool
  /-- The digits as a whole number. -/
  digits : Nat
  /-- The power of ten that the digits count. -/
  exponent : Int
deriving DecidableEq, Repr, Inhabited

/-- The power of ten above the point, `1` for a negative exponent. -/
def tenUp (k : Int) : Nat := Nat.pow 10 k.toNat

/-- The power of ten below the point, `1` for a positive exponent. -/
def tenDown (k : Int) : Nat := Nat.pow 10 (-k).toNat

/-- A power of ten that a number other than zero reaches. -/
def placeBelow (n : Nat) : Nat := n.log2 * 3 / 10

/-- A power of ten that a number does not reach. -/
def placeAbove (n : Nat) : Nat := (n.log2 + 1) * 4 / 13 + 1

/-- Three powers of ten are less than ten powers of two. -/
theorem ten_pow_placeBelow_le {n : Nat} (h : n ≠ 0) : Nat.pow 10 (placeBelow n) ≤ n := by
  refine Nat.le_trans ?_ (Nat.log2_self_le h)
  refine (Nat.pow_le_pow_iff_left (by decide : 10 ≠ 0)).1 ?_
  calc (10 ^ placeBelow n) ^ 10
      = 10 ^ (placeBelow n * 10) := (Nat.pow_mul ..).symm
    _ ≤ 10 ^ (3 * n.log2) := Nat.pow_le_pow_right (by decide) (by unfold placeBelow; omega)
    _ = (10 ^ 3) ^ n.log2 := Nat.pow_mul ..
    _ ≤ (2 ^ 10) ^ n.log2 := Nat.pow_le_pow_left (by decide) _
    _ = (2 ^ n.log2) ^ 10 := by rw [← Nat.pow_mul, ← Nat.pow_mul, Nat.mul_comm]

/-- Thirteen powers of two are less than four powers of ten. -/
theorem lt_ten_pow_placeAbove (n : Nat) : n < Nat.pow 10 (placeAbove n) := by
  refine Nat.lt_of_lt_of_le Nat.lt_log2_self ?_
  refine (Nat.pow_le_pow_iff_left (by decide : 13 ≠ 0)).1 ?_
  calc (2 ^ (n.log2 + 1)) ^ 13
      = (2 ^ 13) ^ (n.log2 + 1) := by rw [← Nat.pow_mul, ← Nat.pow_mul, Nat.mul_comm]
    _ ≤ (10 ^ 4) ^ (n.log2 + 1) := Nat.pow_le_pow_left (by decide) _
    _ = 10 ^ (4 * (n.log2 + 1)) := (Nat.pow_mul ..).symm
    _ ≤ 10 ^ (placeAbove n * 13) :=
      Nat.pow_le_pow_right (by decide) (by unfold placeAbove; omega)
    _ = (10 ^ placeAbove n) ^ 13 := Nat.pow_mul ..

namespace Decimal

/-- A value of at least `10 ^ 310` is out of range for every rounding. -/
def upperPlace : Int := 310

/-- A value below `10 ^ (-330)` rounds to zero. -/
def lowerPlace : Int := -330

/-- The nearest double; of two equally near ones the one whose last bit is zero.  Values far beyond
both ends of the range are settled by the place of their leading digit. -/
def toDouble (d : Decimal) : Double :=
  if d.digits = 0 then .finite d.negative .zero
  else if upperPlace ≤ placeBelow d.digits + d.exponent then .infinite d.negative
  else if placeAbove d.digits + d.exponent ≤ lowerPlace then .finite d.negative .zero
  else Double.ofRatio d.negative (d.digits * tenUp d.exponent * unitsPerOne) (tenDown d.exponent)

/-- The fuel-bounded removal of zeros behind `dropZeros`. -/
def dropZerosFrom : Nat → Nat → Int → Nat × Int
  | 0, digits, exponent => (digits, exponent)
  | fuel + 1, digits, exponent =>
    if digits ≠ 0 ∧ digits % 10 = 0 then dropZerosFrom fuel (digits / 10) (exponent + 1)
    else (digits, exponent)

/-- The same value without zeros at the end of its digits. -/
def dropZeros (d : Decimal) : Decimal :=
  let (digits, exponent) := dropZerosFrom d.digits d.digits d.exponent
  { d with digits, exponent }

end Decimal

namespace Magnitude

/-- The point `c · 10 ^ k` has this magnitude as its nearest double. -/
def reads (m : Magnitude) (k : Int) (c : Nat) : Bool :=
  nearestUnits (c * tenUp k * unitsPerOne) (tenDown k) == m.units

/-- A point of the grid `10 ^ k` that reads back: the nearer of the value's two neighbours, an exact
tie going to the even one, unless only the other neighbour reads back. -/
def gridPoint? (m : Magnitude) (k : Int) : Option Nat :=
  let num := m.units * tenDown k
  let den := unitsPerOne * tenUp k
  let low := num / den
  let near := divNearest num den
  let far := if near = low then low + 1 else low
  if m.reads k near then some near
  else if m.reads k far then some far
  else none

/-- The first point that the grids offer, from `10 ^ k` downwards; the given one if none of so many
grids does. -/
def searchGrids (point? : Int → Option Nat) (finest : Nat × Int) : Nat → Int → Nat × Int
  | 0, _ => finest
  | fuel + 1, k =>
    match point? k with
    | some c => (c, k)
    | none => searchGrids point? finest fuel (k - 1)

/-- On the grid of `10 ^ (-1074)` the value itself is a point. -/
def finestPoint (m : Magnitude) : Nat × Int := (m.units * Nat.pow 5 1074, -1074)

/-- A power of ten above the value: `log₁₀ 2` is below `30103 / 100000`. -/
def gridAbove (m : Magnitude) : Int :=
  (m.units.log2 - 1073) * 30103 / 100000 + 1

/-- The fewest digits that read back, and among them the nearest to the value, as a whole number of
a power of ten. -/
def shortest (m : Magnitude) : Nat × Int :=
  if m.units = 0 then (0, 0)
  else searchGrids m.gridPoint? m.finestPoint (m.gridAbove + 1074).toNat m.gridAbove

end Magnitude

/-- The sign and shortest digits of a finite double, without zeros at the end. -/
def Double.decimal (negative : Bool) (m : Magnitude) : Decimal :=
  let (digits, exponent) := m.shortest
  Decimal.dropZeros { negative, digits, exponent }

end MetricIntake
