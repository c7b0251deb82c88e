/-!
# Blank characters

The characters that may surround a value without being part of it, and the removal of them:
`isBlank`, `trim`.  `isSpace` is the narrower class, without the four separator controls
U+001C to U+001F, and `trimSpace` removes that one.
-/

namespace MetricIntake.Text

/-- The characters with the Unicode property `White_Space`. -/
def isSpace (c : Char) : Bool :=
  let n := c.toNat
  (0x09 ≤ n && n ≤ 0x0D) || n == 0x20 || n == 0x85 || n == 0xA0 || n == 0x1680 ||
    (0x2000 ≤ n && n ≤ 0x200A) || n == 0x2028 || n == 0x2029 || n == 0x202F || n == 0x205F ||
    n == 0x3000

/-- White space and the information separators U+001C to U+001F. -/
def isBlank (c : Char) : Bool :=
  isSpace c || (0x1C ≤ c.toNat && c.toNat ≤ 0x1F)

/-- Both ends without the members that satisfy `p`. -/
def trimBy {α : Type} (p : α → Bool) (cs : List α) : List α :=
  ((cs.dropWhile p).reverse.dropWhile p).reverse

/-- Both ends without blank characters. -/
def trim (cs : List Char) : List Char :=
  trimBy isBlank cs

/-- Both ends without white space. -/
def trimSpace (cs : List Char) : List Char :=
  trimBy isSpace cs

end MetricIntake.Text
