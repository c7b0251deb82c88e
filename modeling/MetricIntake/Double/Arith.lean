import MetricIntake.Double.Nearest

/-!
# Arithmetic

Sums, differences, products and quotients of doubles, each the exact one rounded once:
`Double.add`, `Double.sub`, `Double.mul`, `Double.div`.
-/

namespace MetricIntake.Double

/-- The double nearest to a whole number of units; a zero has the given sign. -/
def ofUnits (zeroNegative : Bool) (n : Int) : Double :=
  .ofRatio (if n = 0 then zeroNegative else n < 0) n.natAbs 1

/-- The double nearest to a whole number. -/
def ofWhole (n : Int) : Double :=
  .ofRatio (n < 0) (n.natAbs * unitsPerOne) 1

/-- A magnitude with its sign, in units. -/
def signedUnits (negative : Bool) (m : Magnitude) : Int :=
  if negative then -(m.units : Int) else m.units

/-- The sum.  A sum of zero is positive unless both numbers are negative. -/
def add : Double → Double → Double
  | nan, _ => nan
  | _, nan => nan
  | infinite s, infinite t => if s = t then infinite s else nan
  | infinite s, finite _ _ => infinite s
  | finite _ _, infinite t => infinite t
  | finite s m, finite t n => ofUnits (s && t) (signedUnits s m + signedUnits t n)

/-- The difference. -/
def sub (a b : Double) : Double := a.add b.neg

/-- The product. -/
def mul : Double → Double → Double
  | nan, _ => nan
  | _, nan => nan
  | infinite s, infinite t => infinite (s != t)
  | infinite s, finite t n => if n.units = 0 then nan else infinite (s != t)
  | finite s m, infinite t => if m.units = 0 then nan else infinite (s != t)
  | finite s m, finite t n => ofRatio (s != t) (m.units * n.units) unitsPerOne

/-- The quotient.  A number other than zero divided by zero is infinite. -/
def div : Double → Double → Double
  | nan, _ => nan
  | _, nan => nan
  | infinite _, infinite _ => nan
  | infinite s, finite t _ => infinite (s != t)
  | finite s _, infinite t => finite (s != t) .zero
  | finite s m, finite t n =>
    if n.units = 0 then if m.units = 0 then nan else infinite (s != t)
    else ofRatio (s != t) (m.units * unitsPerOne) n.units

end MetricIntake.Double
