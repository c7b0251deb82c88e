import MetricIntake.Double.Decimal

/-!
# Written numbers

The three ways in which a double is written, all from its shortest digits or from a whole number of
decimal places: `Double.plain` never uses an exponent, `Double.display` uses one outside
`10⁻⁴ … 10¹⁶`, `Double.fixed` has a given number of places.
-/

namespace MetricIntake

/-- The digits of a whole number, `0` for zero. -/
def wholeText (n : Nat) : List Char :=
  Nat.toDigits 10 n

/-- The sign of a number as it is written: nothing, or a minus. -/
def signText (negative : Bool) : List Char :=
  if negative then ['-'] else []

/-- The digits of a whole number with zeros in front up to a width. -/
def paddedText (width n : Nat) : List Char :=
  let ds := wholeText n
  List.replicate (width - ds.length) '0' ++ ds

namespace Decimal

/-- The unsigned value written without an exponent, and without a point if it is whole. -/
def positional (d : Decimal) : List Char :=
  let ds := wholeText d.digits
  let places := (-d.exponent).toNat
  if places = 0 then
    if d.digits = 0 then ds else ds ++ List.replicate d.exponent.toNat '0'
  else if places < ds.length then
    ds.take (ds.length - places) ++ '.' :: ds.drop (ds.length - places)
  else
    '0' :: '.' :: (List.replicate (places - ds.length) '0' ++ ds)

/-- The unsigned value as one digit, the others behind a point, and the exponent with its sign and
at least two digits. -/
def scientific (d : Decimal) : List Char :=
  let ds := wholeText d.digits
  let e : Int := d.exponent + (ds.length - 1 : Nat)
  let mantissa := match ds with
    | c :: rest@(_ :: _) => c :: '.' :: rest
    | short => short
  mantissa ++ 'e' :: (if e < 0 then '-' else '+') :: paddedText 2 e.natAbs

/-- The power of ten of the leading digit. -/
def leadingPlace (d : Decimal) : Int :=
  d.exponent + ((wholeText d.digits).length - 1 : Nat)

/-- Values from `10⁻⁴` to below `10¹⁶` are written without an exponent. -/
def isPositional (d : Decimal) : Bool :=
  d.digits = 0 || (-4 ≤ d.leadingPlace && d.leadingPlace < 16)

/-- The unsigned value, with an exponent if it is very large or very small, and with a point in any
case. -/
def display (d : Decimal) : List Char :=
  if d.isPositional then
    if d.exponent < 0 then d.positional else d.positional ++ ['.', '0']
  else d.scientific

end Decimal

namespace Double

/-- The characters of `plain`. -/
def plainText : Double → List Char
  | nan => ['N', 'a', 'N']
  | infinite negative => signText negative ++ "Infinity".toList
  | finite negative m =>
    let d := decimal negative m
    if d.digits = 0 then ['0'] else signText negative ++ d.positional

/-- The shortest digits that read back, without an exponent and without needless zeros.  Both zeros
are `0`. -/
def plain (x : Double) : String :=
  String.ofList x.plainText

/-- The characters of `display`. -/
def displayText : Double → List Char
  | nan => ['n', 'a', 'n']
  | infinite negative => signText negative ++ ['i', 'n', 'f']
  | finite negative m => signText negative ++ (decimal negative m).display

/-- The shortest digits that read back, with a point or an exponent. -/
def display (x : Double) : String :=
  String.ofList x.displayText

/-- The value rounded to a number of decimal places, a tie going to the even digit. -/
def fixed (places : Nat) : Double → String
  | nan => "nan"
  | infinite negative => String.ofList (signText negative ++ ['i', 'n', 'f'])
  | finite negative m =>
    let ds := paddedText (places + 1) (divNearest (m.units * Nat.pow 10 places) unitsPerOne)
    let whole := ds.take (ds.length - places)
    let fraction := ds.drop (ds.length - places)
    String.ofList (signText negative ++ whole ++ if places = 0 then [] else '.' :: fraction)

end Double

end MetricIntake
