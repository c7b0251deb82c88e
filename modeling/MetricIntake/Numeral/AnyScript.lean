import MetricIntake.Numeral
import MetricIntake.Text.Digit

/-!
# Numerals in any script

Numbers as people write them: with white space around them, the digits of any script, and single
underscores between digits.  `Numeral.wholeInAnyScript?` reads a whole number, and
`Numeral.isDoubleInAnyScript` says whether a text is a double.
-/

namespace MetricIntake.Numeral

/-- A character beyond ASCII as the one it stands for: white space as a space and a digit as the
ASCII digit; any other as a character that is in no number. -/
def asciiForm (c : Char) : Char :=
  if c.toNat < 0x80 then c
  else if Text.isSpace c then ' '
  else ((Text.decimalValue? c).map Nat.digitChar).getD '?'

/-- A text without its underscores, each of which must be between two digits. -/
def joinDigits? (behindDigit : Bool) : List Char → Option (List Char)
  | [] => some []
  | '_' :: c :: cs =>
    if behindDigit && isDigit c then (joinDigits? true cs).map (c :: ·) else none
  | c :: cs => if c = '_' then none else (joinDigits? (isDigit c) cs).map (c :: ·)

/-- The number in a text, in ASCII and without white space and underscores. -/
def plainForm? (cs : List Char) : Option (List Char) :=
  joinDigits? false (Text.trimSpace (cs.map asciiForm))

/-- A text as a whole number: an optional sign and digits. -/
def wholeInAnyScript? (cs : List Char) : Option Int :=
  (plainForm? cs).bind fun body =>
    let (negative, digits) := scanSign body
    if digits.isEmpty || !digits.all isDigit || digitsLimit < digits.length then none
    else some (if negative then -(digitsValue digits : Int) else digitsValue digits)

/-- A text that is a double: a numeral or the word of a special one. -/
def isDoubleInAnyScript (cs : List Char) : Bool :=
  ((plainForm? cs).bind plainDouble?).isSome

end MetricIntake.Numeral
