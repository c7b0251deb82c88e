import MetricIntake.Text.Blank

/-!
# Code points

Texts from outside may hold halves of characters: a `CodePoint` is a character or a surrogate, and a
`CodeText` a list of them.  `CodeText.ofString` takes a string for one, `CodeText.chars?` are the
characters of a text without halves, and `CodeText.halves?` is where a text has its first halves.
`CodeText.plain` is a string in any case.
-/

namespace MetricIntake

/-- A Unicode code point: a character, or a surrogate by its distance from U+D800, which is half of
a character. -/
inductive CodePoint
  | char (c : Char)
  | half (offset : Fin 0x800)
deriving DecidableEq, Repr, Inhabited

namespace CodePoint

/-- The first surrogate. -/
def firstHalf : Nat := 0xD800

/-- The number of a code point. -/
def value : CodePoint → Nat
  | char c => c.toNat
  | half offset => firstHalf + offset

instance : Hashable CodePoint := ⟨fun p => hash p.value⟩

/-- The code point of a number up to U+10FFFF. -/
def ofNat (n : Nat) : CodePoint :=
  if h : firstHalf ≤ n ∧ n < firstHalf + 0x800 then half ⟨n - firstHalf, by omega⟩
  else char (Char.ofNat n)

/-- A code point is a character. -/
def char? : CodePoint → Option Char
  | char c => some c
  | half _ => none

/-- A code point is half of a character. -/
def isHalf : CodePoint → Bool
  | char _ => false
  | half _ => true

/-- A code point is a character of a class. -/
def isIn (p : Char → Bool) : CodePoint → Bool
  | char c => p c
  | half _ => false

/-- The characters in the place of a code point.  A half has U+FFFD for each of the three bytes that
it would take in UTF-8. -/
def plain : CodePoint → List Char
  | char c => [c]
  | half _ => List.replicate 3 '\ufffd'

end CodePoint

/-- A text that may hold halves of characters. -/
abbrev CodeText := List CodePoint

namespace CodeText

/-- Characters as a text. -/
def ofChars (cs : List Char) : CodeText := cs.map .char

/-- A string as a text. -/
def ofString (s : String) : CodeText := ofChars s.toList

instance : Coe String CodeText := ⟨ofString⟩

/-- The characters of a text without halves. -/
def chars? (s : CodeText) : Option (List Char) :=
  if s.any CodePoint.isHalf then none else some (s.filterMap CodePoint.char?)

/-- A string for any text. -/
def plain (s : CodeText) : String := String.ofList (s.flatMap CodePoint.plain)

/-- Both ends without blank characters. -/
def trim (s : CodeText) : CodeText := Text.trimBy (CodePoint.isIn Text.isBlank) s

/-- Halves of characters that stand side by side in a text. -/
structure Halves where
  /-- The number of code points before them. -/
  position : Nat
  /-- The first of them. -/
  first : Fin 0x800
  /-- The number of the others. -/
  more : Nat
deriving DecidableEq, Repr

/-- The first halves of a text. -/
def halves? (s : CodeText) : Option Halves :=
  match s.span (!·.isHalf) with
  | (before, .half first :: rest) =>
    some { position := before.length, first, more := (rest.takeWhile CodePoint.isHalf).length }
  | _ => none

/-- The characters of a text of characters. -/
theorem filterMap_char?_ofChars (cs : List Char) : (ofChars cs).filterMap CodePoint.char? = cs := by
  simp [ofChars, List.filterMap_map, Function.comp_def, CodePoint.char?]

/-- Code points without halves among them are their characters. -/
theorem ofChars_filterMap_char? {s : CodeText} (h : ∀ p ∈ s, CodePoint.isHalf p = false) :
    ofChars (s.filterMap CodePoint.char?) = s := by
  induction s with
  | nil => rfl
  | cons p s ih =>
    have hp := h p List.mem_cons_self
    have hs := ih fun q hq => h q (List.mem_cons_of_mem _ hq)
    cases p with
    | char c => exact congrArg (CodePoint.char c :: ·) hs
    | half offset => cases hp

/-- Characters are a text without halves. -/
theorem chars?_ofChars (cs : List Char) : chars? (ofChars cs) = some cs := by
  have hany : (ofChars cs).any CodePoint.isHalf = false := by
    simp [ofChars, CodePoint.isHalf]
  simp [chars?, hany, filterMap_char?_ofChars]

end CodeText

end MetricIntake
