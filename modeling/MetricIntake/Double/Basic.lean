/-!
# Doubles

The numbers of the binary64 format.  A finite double is a whole number of *units* of `2⁻¹⁰⁷⁴`, the
smallest positive double; `Representable` says which whole numbers of units are doubles.  The main
definitions are `Magnitude`, `Double` and the comparison `Double.lt`.
-/

namespace MetricIntake

/-- The number of units that make up one. -/
def unitsPerOne : Nat := Nat.pow 2 1074

/-- The largest number of zeros that can stand behind the 53 bits of a double. -/
def topScale : Nat := 2045

/-- The first number of units that is too large for a double. -/
def unitsLimit : Nat := Nat.pow 2 53 * Nat.pow 2 topScale

/-- A number of units is a double's when at most 53 bits followed by zeros write it. -/
def Representable (units : Nat) : Prop :=
  ∃ significand scale,
    significand < Nat.pow 2 53 ∧ scale ≤ topScale ∧ units = significand * Nat.pow 2 scale

/-- The absolute value of a finite double. -/
structure Magnitude where
  /-- The value as a number of units of `2⁻¹⁰⁷⁴`. -/
  units : Nat
  /-- The number of units is one that a double can hold. -/
  representable : Representable units

namespace Magnitude

/-- Two magnitudes with the same units are equal. -/
@[ext] theorem ext {a b : Magnitude} (h : a.units = b.units) : a = b := by
  cases a; cases b; simp_all

instance : DecidableEq Magnitude := fun a b =>
  if h : a.units = b.units then isTrue (ext h) else isFalse fun e => h (e ▸ rfl)

/-- Nothing. -/
def zero : Magnitude := ⟨0, 0, 0, by decide, by decide, by decide⟩

instance : Inhabited Magnitude := ⟨zero⟩

end Magnitude

/-- A double: not a number, an infinity, or a sign and a magnitude.  There are two zeros. -/
inductive Double
  | nan
  | infinite (negative : Bool)
  | finite (negative : Bool) (size : Magnitude)
deriving DecidableEq, Inhabited

namespace Double

/-- The positive zero. -/
def zero : Double := .finite false .zero

/-- The value in units, for a finite double. -/
def units? : Double → Option Int
  | .finite false m => some m.units
  | .finite true m => some (-(m.units : Int))
  | _ => none

/-- Neither an infinity nor not-a-number. -/
def isFinite : Double → Bool
  | .finite _ _ => true
  | _ => false

/-- Strictly smaller.  Nothing is smaller than not-a-number and it is smaller than nothing; the two
zeros are level. -/
def lt : Double → Double → Bool
  | .nan, _ => false
  | _, .nan => false
  | .infinite true, b => b != .infinite true
  | .infinite false, _ => false
  | .finite _ _, .infinite negative => !negative
  | .finite s m, .finite t n =>
    let x : Int := if s then -(m.units : Int) else m.units
    let y : Int := if t then -(n.units : Int) else n.units
    x < y

/-- The same magnitude with the other sign. -/
def neg : Double → Double
  | .nan => .nan
  | .infinite s => .infinite !s
  | .finite s m => .finite (!s) m

/-- The first of two numbers, unless the second is strictly smaller. -/
def min (a b : Double) : Double := if b.lt a then b else a

/-- The first of two numbers, unless the second is strictly larger. -/
def max (a b : Double) : Double := if a.lt b then b else a

end Double

end MetricIntake
