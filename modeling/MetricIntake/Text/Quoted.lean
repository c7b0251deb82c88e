import MetricIntake.Text.CodePoint
import MetricIntake.Text.Hex
import MetricIntake.Text.Printable

/-!
# Quoted text

A text as it is shown inside messages: between quotes, with escapes for the quote, the backslash and
all that is not printable.  `quoteMark` chooses the quote and `quoted` writes the text.
-/

namespace MetricIntake.Text

/-- Single quotes, unless the text has one and no double quote. -/
def quoteMark (s : CodeText) : Char :=
  if s.contains (.char '\'') && !s.contains (.char '"') then '"' else '\''

/-- One character between the quotes `mark`. -/
def quotedChar (mark c : Char) : List Char :=
  if c = mark ∨ c = '\\' then ['\\', c]
  else if c = '\n' then ['\\', 'n']
  else if c = '\r' then ['\\', 'r']
  else if c = '\t' then ['\\', 't']
  else if isPrintable c then [c]
  else if c.toNat < 0x100 then '\\' :: 'x' :: hexPadded 2 c.toNat
  else if c.toNat < 0x10000 then '\\' :: 'u' :: hexPadded 4 c.toNat
  else '\\' :: 'U' :: hexPadded 8 c.toNat

/-- A half of a character by its number. -/
def halfEscape (p : CodePoint) : List Char := '\\' :: 'u' :: hexPadded 4 p.value

/-- One code point between the quotes `mark`.  A half is not printable. -/
def quotedPoint (mark : Char) : CodePoint → List Char
  | .char c => quotedChar mark c
  | p => halfEscape p

/-- The text between quotes, with backslash escapes. -/
def quoted (s : CodeText) : List Char :=
  let mark := quoteMark s
  mark :: (s.flatMap (quotedPoint mark) ++ [mark])

/-- A string between quotes. -/
def quote (s : String) : String :=
  String.ofList (quoted s)

end MetricIntake.Text
