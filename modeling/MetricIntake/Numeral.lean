import MetricIntake.Double.Decimal
import MetricIntake.Numeral.Digits
import MetricIntake.Text.Blank
import MetricIntake.Text.Quoted

/-!
# Numerals

The written numbers that a sample's value may be: a sign, digits with or without a point, and an
exponent.  `Numeral.read?` reads a whole text as one, and `readNumber` takes it for a finite double.
-/

namespace MetricIntake

namespace Numeral

/-- The most digits that a whole number may have. -/
def digitsLimit : Nat := 4300

/-- What is said about a whole number with too many digits. -/
def longWholeMessage (digits : Nat) : String :=
  "Exceeds the limit (" ++ toString digitsLimit ++
    " digits) for integer string conversion: value has " ++ toString digits ++
    " digits; use sys.set_int_max_str_digits() to increase the limit"

/-- An optional sign in front, and whether it is a minus. -/
def scanSign : List Char → Bool × List Char
  | '-' :: cs => (true, cs)
  | '+' :: cs => (false, cs)
  | cs => (false, cs)

/-- The exponent part of a text that starts with one: a letter `e`, an optional sign and digits. -/
def scanExponent : List Char → Option (Int × List Char)
  | c :: cs =>
    if c = 'e' ∨ c = 'E' then
      let (negative, cs) := scanSign cs
      let ds := cs.takeWhile isDigit
      if ds.isEmpty then none
      else some (if negative then -(digitsValue ds : Int) else digitsValue ds, cs.dropWhile isDigit)
    else none
  | [] => none

/-- The point and the digits behind it, if the text starts with a point. -/
def scanFraction : List Char → Option (List Char × List Char)
  | '.' :: cs => some (cs.takeWhile isDigit, cs.dropWhile isDigit)
  | _ => none

/-- A whole text as a numeral: `[+-]? (digits [. digits?] | . digits) ([eE] [+-]? digits)?`. -/
def read? (text : List Char) : Option Decimal :=
  let (negative, cs) := scanSign text
  let whole := cs.takeWhile isDigit
  let rest := cs.dropWhile isDigit
  let (fraction, rest) := (scanFraction rest).getD ([], rest)
  if whole.isEmpty && fraction.isEmpty then none
  else
    match rest with
    | [] =>
      some { negative, digits := digitsValue (whole ++ fraction), exponent := -fraction.length }
    | _ =>
      match scanExponent rest with
      | some (e, []) =>
        some
          { negative, digits := digitsValue (whole ++ fraction), exponent := e - fraction.length }
      | _ => none

end Numeral

/-- A letter in lower case, if it is an ASCII letter. -/
def lowerAscii (c : Char) : Char :=
  if 'A' ≤ c ∧ c ≤ 'Z' then Char.ofNat (c.toNat + 0x20) else c

/-- A numeral, or one of the words `inf`, `infinity` and `nan` with an optional sign. -/
def plainDouble? (cs : List Char) : Option Double :=
  match Numeral.read? cs with
  | some d => some d.toDouble
  | none =>
    let (negative, body) := Numeral.scanSign cs
    let word := body.map lowerAscii
    if word = "inf".toList ∨ word = "infinity".toList then some (.infinite negative)
    else if word = "nan".toList then some .nan
    else none

/-- Why a text is not a finite number. -/
inductive NumberError
  | empty
  | notANumber (text : CodeText)
  | notFinite (text : CodeText)
deriving DecidableEq, Repr

/-- What is said about a text that is not a finite number. -/
def NumberError.message : NumberError → String
  | empty => "empty value"
  | notANumber text => "not a number: " ++ String.ofList (Text.quoted text)
  | notFinite text => "not a finite number: " ++ String.ofList (Text.quoted text)

/-- The finite number that a text stands for, blank characters at its ends aside. -/
def readNumber (text : CodeText) : Except NumberError Double :=
  let body := text.trim
  if body.isEmpty then .error .empty
  else
    match body.chars?.bind Numeral.read? with
    | none => .error (.notANumber body)
    | some d =>
      let x := d.toDouble
      if x.isFinite then .ok x else .error (.notFinite body)

end MetricIntake
