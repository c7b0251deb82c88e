import MetricIntake.Double.Arith
import MetricIntake.Json.Basic
import MetricIntake.Numeral
import MetricIntake.Validation.FieldError

/-!
# Lenient readings

How a JSON value is taken for a text, a double or a whole number.  A text must be one.  Numbers may
also be truth values and texts without halves of characters: `doubleOfText?` and `wholeOfText` say
which texts, `Json.asDouble` and `Json.asWhole` which values.
-/

namespace MetricIntake

/-! ### Underscores -/

/-- An underscore has another right behind it. -/
def hasDoubleUnderscore : List Char → Bool
  | '_' :: '_' :: _ => true
  | _ :: cs => hasDoubleUnderscore cs
  | [] => false

/-- A text without its underscores, which must stand alone and not at an end. -/
def dropUnderscores? (cs : List Char) : Option (List Char) :=
  if cs.head? = some '_' ∨ cs.getLast? = some '_' ∨ hasDoubleUnderscore cs then none
  else some (cs.filter (· ≠ '_'))

/-! ### Doubles -/

/-- A text as a double: with white space around it, or else with underscores in it. -/
def doubleOfText? (cs : List Char) : Option Double :=
  match plainDouble? (Text.trimSpace cs) with
  | some x => some x
  | none => (dropUnderscores? cs).bind plainDouble?

/-! ### Whole numbers -/

/-- The most digits that the text of a whole number may have. -/
def wholeTextLimit : Nat := 4300

/-- A text without a point and the zeros behind it, of which there is at least one. -/
def dropZeroFraction (cs : List Char) : List Char :=
  match cs.span (· ≠ '.') with
  | (whole, '.' :: zeros) => if !zeros.isEmpty && zeros.all (· = '0') then whole else cs
  | _ => cs

/-- A text that starts with a digit, without the zeros in front and the underscores among them.  One
character stays before a point and at the end.  Behind a zero a minus sign may follow. -/
def dropLeadingZeros? (cs : List Char) : Option (List Char) :=
  let (front, rest) := cs.span fun c => c = '0' || c = '_'
  match front, rest with
  | '0' :: _, [] => some (front.drop (front.length - 1))
  | '0' :: _, '.' :: _ => some (front.drop (front.length - 1) ++ rest)
  | '0' :: _, c :: _ => if isDigit c || c = '-' then some rest else none
  | [], c :: _ => if isDigit c then some rest else none
  | _, _ => none

/-- The number of digits without a zero in front, or of one zero. -/
def plainWhole? (ds : List Char) : Option Nat :=
  if ds.isEmpty || !ds.all isDigit || (ds.head? = some '0' && ds.length ≠ 1) then none
  else some (digitsValue ds)

/-- The number that a text without white space around it and a sign in front has: zeros in front,
a minus sign behind them, single underscores, and a fraction of zeros. -/
def unsignedParts? (cs : List Char) : Option (Bool × List Char) :=
  ((dropLeadingZeros? cs).bind fun body => dropUnderscores? (dropZeroFraction body)).map fun ds =>
    match ds with
    | '-' :: ds => (true, ds)
    | ds => (false, ds)

/-- A text as a whole number, with white space around it and a sign in front.  A minus sign may also
stand behind zeros, but not behind another one. -/
def wholeOfParts? (cs : List Char) : Option Int :=
  let (minus, body) := Numeral.scanSign (Text.trimSpace cs)
  (unsignedParts? body).bind fun (inner, ds) =>
    if (minus && inner) || wholeTextLimit < ds.length then none
    else (plainWhole? ds).map fun n => if minus || inner then -(n : Int) else n

/-- The digits of the whole number in plain form that a text starts with, behind an optional minus
sign.  None has a zero in front. -/
def leadingDigits (cs : List Char) : List Char :=
  let body := match cs with
    | '-' :: body => body
    | body => body
  let ds := body.takeWhile isDigit
  if ds.head? = some '0' then [] else ds

/-- A text as a whole number.  It is oversized if what it starts with is, whatever follows; if its
number is too long in any other form it cannot be read. -/
def wholeOfText (cs : List Char) : Except FieldError.Kind Int :=
  if wholeTextLimit < (leadingDigits cs).length then .error .oversizedWhole
  else
    match wholeOfParts? cs with
    | some n => .ok n
    | none => .error .unreadableWhole

/-- The whole number that a double is. -/
def Double.whole (x : Double) : Except FieldError.Kind Int :=
  match x with
  | .finite negative m =>
    if m.units % unitsPerOne ≠ 0 then .error .fractional
    else
      let n := m.units / unitsPerOne
      if n < Nat.pow 2 63 then .ok (if negative then -(n : Int) else n) else .error .oversizedWhole
  | _ => .error .notFinite

/-! ### JSON values -/

namespace Json

/-- A value as a text. -/
def asText : Json → Except FieldError.Kind CodeText
  | text s => .ok s
  | _ => .error .notText

/-- A value as a string.  This is meant for texts of whole characters: one with halves of characters
is not told from any other text with the same plain form. -/
def asString (value : Json) : Except FieldError.Kind String :=
  value.asText.map CodeText.plain

/-- A value as a double.  A whole number must be in range. -/
def asDouble : Json → Except FieldError.Kind Double
  | double x => .ok x
  | whole n =>
    let x := Double.ofWhole n
    if x.isFinite then .ok x else .error .notDouble
  | bool b => .ok (.ofWhole (if b then 1 else 0))
  | text s =>
    match s.chars? with
    | none => .error .brokenText
    | some cs =>
      match doubleOfText? cs with
      | some x => .ok x
      | none => .error .unreadableDouble
  | _ => .error .notDouble

/-- A value as a whole number. -/
def asWhole : Json → Except FieldError.Kind Int
  | whole n => .ok n
  | bool b => .ok (if b then 1 else 0)
  | double x => x.whole
  | text s =>
    match s.chars? with
    | none => .error .brokenText
    | some cs => wholeOfText cs
  | _ => .error .notWhole

end Json

/-- A field that must be there. -/
def requiredField {α : Type} (members : List (CodeText × Json)) (name : String)
    (convert : Json → Except FieldError.Kind α) : Checked α :=
  match Json.lookup name members with
  | some value => .field name (convert value)
  | none => .fail [name] .missing

/-- A field that has a value of its own where it is not there. -/
def optionalField {α : Type} (members : List (CodeText × Json)) (name : String) (absent : α)
    (convert : Json → Except FieldError.Kind α) : Checked α :=
  match Json.lookup name members with
  | some value => .field name (convert value)
  | none => .ok absent

/-- A field that goes by several names, of which the first that is there counts. -/
def namedField {α : Type} (members : List (CodeText × Json)) (names : List String) (absent : α)
    (convert : Json → Except FieldError.Kind α) : Checked α :=
  match names.find? fun name => (Json.lookup name members).isSome with
  | some name => optionalField members name absent convert
  | none => .ok absent

/-- A value that may be null. -/
def nullable {α : Type} (convert : Json → Except FieldError.Kind α) :
    Json → Except FieldError.Kind (Option α)
  | .null => .ok none
  | value => (convert value).map some

end MetricIntake
