import MetricIntake.Json.Basic
import MetricIntake.Numeral
import MetricIntake.Text.Hex

/-!
# Reading JSON

`Json.read` takes a whole text; besides JSON it takes `NaN`, `Infinity` and `-Infinity`, and halves
of characters in strings.  Scanning functions work on the remaining code points and return what they
leave; `scanValue` takes one value, no deeper than a limit.  How deep a whole text may be is the
`Depth` with which it is read.  A failure keeps the rest of the text at which it arose, from which
`Json.read` tells the place.
-/

namespace MetricIntake.Json

/-- What a text does wrong. -/
inductive Problem
  | expectingValue
  | expectingName
  | expectingColon
  | expectingComma
  | extraData
  | unterminatedString
  | controlCharacter
  | badEscape
  | badUnicodeEscape
  | byteOrderMark
deriving DecidableEq, Repr

/-- What a problem is called. -/
def Problem.message : Problem → String
  | expectingValue => "Expecting value"
  | expectingName => "Expecting property name enclosed in double quotes"
  | expectingColon => "Expecting ':' delimiter"
  | expectingComma => "Expecting ',' delimiter"
  | extraData => "Extra data"
  | unterminatedString => "Unterminated string starting at"
  | controlCharacter => "Invalid control character at"
  | badEscape => "Invalid \\escape"
  | badUnicodeEscape => "Invalid \\uXXXX escape"
  | byteOrderMark => "Unexpected UTF-8 BOM (decode using utf-8-sig)"

/-- The values that hold values. -/
inductive Container
  | array
  | object
deriving DecidableEq, Repr

/-- Why scanning stopped: a problem with what remains of the text, a value inside too many others,
or a whole number with too many digits. -/
inductive Stop
  | problem (p : Problem) (rest : CodeText)
  | nesting (c : Container)
  | longWhole (digits : Nat)
deriving DecidableEq, Repr

/-- How many values may lie around each other where a text is read.  The reader shares what room
there is with all that it is called from, so that it differs from place to place, but one value that
holds others always finds room. -/
structure Depth where
  levels : Nat
  pos : 0 < levels := by decide
deriving DecidableEq, Repr

instance : Inhabited Depth := ⟨{ levels := 1 }⟩

/-- There is room for one value, and for some more inside it. -/
theorem Depth.exists_levels_eq (depth : Depth) : ∃ room, depth.levels = room + 1 :=
  Nat.exists_eq_add_one.2 depth.pos

/-- Space, tab, line feed and carriage return. -/
def isWhitespace (c : Char) : Bool :=
  c = ' ' || c = '\t' || c = '\n' || c = '\r'

/-- The text without the whitespace in front. -/
def skipWhitespace (cs : CodeText) : CodeText :=
  cs.dropWhile (CodePoint.isIn isWhitespace)

/-! ### Strings -/

/-- The code unit of four hexadecimal digits. -/
def hexUnit? (a b c d : CodePoint) : Option Nat := do
  let w ← a.char?.bind Text.hexValue?
  let x ← b.char?.bind Text.hexValue?
  let y ← c.char?.bind Text.hexValue?
  let z ← d.char?.bind Text.hexValue?
  return ((w * 16 + x) * 16 + y) * 16 + z

/-- A code unit that needs a second one behind it. -/
def isHighSurrogate (n : Nat) : Bool := 0xD800 ≤ n && n < 0xDC00

/-- A code unit that needs another one before it. -/
def isLowSurrogate (n : Nat) : Bool := 0xDC00 ≤ n && n < 0xE000

/-- The character of two surrogates. -/
def joinSurrogates (high low : Nat) : Char :=
  Char.ofNat (0x10000 + (high - 0xD800) * 0x400 + (low - 0xDC00))

/-- The character that an escape of one letter stands for. -/
def shortEscape? (c : Char) : Option Char :=
  if c = '"' ∨ c = '\\' ∨ c = '/' then some c
  else if c = 'b' then some '\x08'
  else if c = 'f' then some '\x0c'
  else if c = 'n' then some '\n'
  else if c = 'r' then some '\r'
  else if c = 't' then some '\t'
  else none

/-- The code unit of the four digits in front of a text and the rest of it, which is not empty. -/
def scanUnit? : CodeText → Option (Nat × CodeText)
  | a :: b :: c :: d :: x :: rest => (hexUnit? a b c d).map fun unit => (unit, x :: rest)
  | _ => none

/-- The second half of a character that is written as two escapes. -/
def scanLowHalf? : CodeText → Option (Nat × CodeText)
  | .char '\\' :: .char 'u' :: cs =>
    (scanUnit? cs).filter fun (unit, _) => isLowSurrogate unit
  | _ => none

/-- The code point of an escape by code unit, behind the letter `u`.  Only two escapes make up one
character. -/
def scanUnicode (cs : CodeText) : Except Stop (CodePoint × CodeText) :=
  match scanUnit? cs with
  | none => .error (.problem .badUnicodeEscape (.char 'u' :: cs))
  | some (unit, rest) =>
    if isHighSurrogate unit then
      match scanLowHalf? rest with
      | some (low, rest) => .ok (.char (joinSurrogates unit low), rest)
      | none => .ok (.ofNat unit, rest)
    else .ok (.ofNat unit, rest)

/-- The code point of an escape, behind the backslash.  `opening` is the text from the quote on. -/
def scanEscape (opening : CodeText) : CodeText → Except Stop (CodePoint × CodeText)
  | [] => .error (.problem .unterminatedString opening)
  | e :: rest =>
    if e = .char 'u' then scanUnicode rest
    else
      match e.char?.bind shortEscape? with
      | some x => .ok (.char x, rest)
      | none => .error (.problem .badEscape (.char '\\' :: e :: rest))

/-- Behind a code unit the text is shorter. -/
theorem length_of_scanUnit? {cs rest : CodeText} {unit : Nat}
    (h : scanUnit? cs = some (unit, rest)) : rest.length < cs.length := by
  match cs with
  | a :: b :: c :: d :: x :: tail =>
    simp only [scanUnit?, Option.map_eq_some_iff] at h
    obtain ⟨_, _, h⟩ := h
    cases h
    simp only [List.length_cons]
    omega
  | [] | [_] | [_, _] | [_, _, _] | [_, _, _, _] => simp [scanUnit?] at h

/-- Behind the second half the text is shorter. -/
theorem length_of_scanLowHalf? {cs rest : CodeText} {unit : Nat}
    (h : scanLowHalf? cs = some (unit, rest)) : rest.length < cs.length := by
  unfold scanLowHalf? at h
  split at h
  · have := length_of_scanUnit? (Option.eq_some_of_filter_eq_some h)
    simp only [List.length_cons]
    omega
  · cases h

/-- Behind an escape by code unit the text is shorter. -/
theorem length_of_scanUnicode {cs rest : CodeText} {x : CodePoint}
    (h : scanUnicode cs = .ok (x, rest)) : rest.length < cs.length := by
  unfold scanUnicode at h
  split at h
  · cases h
  · rename_i hunit
    have := length_of_scanUnit? hunit
    split at h
    · split at h
      · rename_i hlow
        have := length_of_scanLowHalf? hlow
        simp only [Except.ok.injEq, Prod.mk.injEq] at h
        rw [← h.2]
        omega
      · simp only [Except.ok.injEq, Prod.mk.injEq] at h
        rw [← h.2]
        exact this
    · simp only [Except.ok.injEq, Prod.mk.injEq] at h
      rw [← h.2]
      exact this

/-- Behind an escape the text is shorter. -/
theorem length_of_scanEscape {opening cs rest : CodeText} {x : CodePoint}
    (h : scanEscape opening cs = .ok (x, rest)) : rest.length < cs.length := by
  unfold scanEscape at h
  split at h
  · cases h
  · simp only [List.length_cons]
    split at h
    · have := length_of_scanUnicode h
      omega
    · split at h
      · simp only [Except.ok.injEq, Prod.mk.injEq] at h
        rw [← h.2]
        omega
      · cases h

/-- The rest of a string behind its opening quote, with the code points so far in reverse.
`opening` is the text from the quote on. -/
def scanString (opening acc : CodeText) (cs : CodeText) : Except Stop (CodeText × CodeText) :=
  match cs with
  | [] => .error (.problem .unterminatedString opening)
  | c :: rest =>
    if c = .char '"' then .ok (acc.reverse, rest)
    else if c = .char '\\' then
      match h : scanEscape opening rest with
      | .error stop => .error stop
      | .ok (x, behind) =>
        have := length_of_scanEscape h
        scanString opening (x :: acc) behind
    else if c.value ≤ 0x1F then .error (.problem .controlCharacter (c :: rest))
    else scanString opening (c :: acc) rest
termination_by cs.length
decreasing_by all_goals simp only [List.length_cons]; omega

/-! ### Numbers -/

/-- The whole part of a number: a zero, or digits that start with another. -/
def scanWhole : List Char → Option (List Char × List Char)
  | [] => none
  | c :: rest =>
    if c = '0' then some (['0'], rest)
    else if isDigit c then some (c :: rest.takeWhile isDigit, rest.dropWhile isDigit)
    else none

/-- The digits behind a point; without one or without digits there is no fraction. -/
def scanDecimals (cs : List Char) : List Char × List Char :=
  match Numeral.scanFraction cs with
  | some (d :: ds, rest) => (d :: ds, rest)
  | _ => ([], cs)

/-- The longest number at the front of some characters, if there is one.  It is whole without a
fraction and an exponent. -/
def scanNumeral? (cs : List Char) : Option (Except Stop (Json × List Char)) :=
  let (negative, body) := match cs with
    | '-' :: body => (true, body)
    | body => (false, body)
  (scanWhole body).map fun (digits, rest) =>
    let (fraction, rest) := scanDecimals rest
    let power := Numeral.scanExponent rest
    if fraction.isEmpty && power.isNone then
      if Numeral.digitsLimit < digits.length then .error (.longWhole digits.length)
      else
        let n := digitsValue digits
        .ok (.whole (if negative then -(n : Int) else n), rest)
    else
      let (e, rest) := power.getD (0, rest)
      let decimal : Decimal :=
        { negative, digits := digitsValue (digits ++ fraction), exponent := e - fraction.length }
      .ok (.double decimal.toDouble, rest)

/-- A character that numbers are written with. -/
def isInNumber (c : Char) : Bool :=
  isDigit c || c = '-' || c = '+' || c = '.' || c = 'e' || c = 'E'

/-- The longest number at the front of a text. -/
def scanNumber (cs : CodeText) : Except Stop (Json × CodeText) :=
  let (front, behind) := cs.span (CodePoint.isIn isInNumber)
  match scanNumeral? (front.filterMap CodePoint.char?) with
  | some (.ok (value, rest)) => .ok (value, CodeText.ofChars rest ++ behind)
  | some (.error stop) => .error stop
  | none => .error (.problem .expectingValue cs)

/-! ### Values -/

/-- The words that are values. -/
def words : List (CodeText × Json) :=
  [("null", .null), ("true", .bool true), ("false", .bool false), ("NaN", .double .nan),
    ("Infinity", .double (.infinite false)), ("-Infinity", .double (.infinite true))]

/-- The word at the front of a text. -/
def scanWord? (cs : CodeText) : Option (Json × CodeText) :=
  (words.find? fun (word, _) => word.isPrefixOf cs).map fun (word, value) =>
    (value, cs.drop word.length)

/-- The items of an array up to its closing bracket, each read by `item`, at most so many. -/
def scanItems (item : CodeText → Except Stop (Json × CodeText)) :
    Nat → CodeText → Except Stop (List Json × CodeText)
  | 0, cs => .error (.problem .expectingValue cs)
  | fuel + 1, cs => do
    let (value, cs) ← item cs
    match skipWhitespace cs with
    | .char ']' :: cs => return ([value], cs)
    | .char ',' :: cs =>
      let (values, cs) ← scanItems item fuel (skipWhitespace cs)
      return (value :: values, cs)
    | cs => throw (.problem .expectingComma cs)

/-- The names and values of an object up to its closing brace, each value read by `item`, at most so
many. -/
def scanMembers (item : CodeText → Except Stop (Json × CodeText)) :
    Nat → CodeText → Except Stop (List (CodeText × Json) × CodeText)
  | 0, cs => .error (.problem .expectingName cs)
  | fuel + 1, cs =>
    match cs with
    | .char '"' :: behind => do
      let (name, cs) ← scanString cs [] behind
      match skipWhitespace cs with
      | .char ':' :: cs =>
        let (value, cs) ← item (skipWhitespace cs)
        match skipWhitespace cs with
        | .char '\x7d' :: cs => return ([(name, value)], cs)
        | .char ',' :: cs =>
          let (pairs, cs) ← scanMembers item fuel (skipWhitespace cs)
          return ((name, value) :: pairs, cs)
        | cs => throw (.problem .expectingComma cs)
      | cs => throw (.problem .expectingColon cs)
    | cs => .error (.problem .expectingName cs)

/-- One value at the front of a text, inside which values lie at most `depth` deep and at most
`width` side by side. -/
def scanValue (width depth : Nat) (cs : CodeText) : Except Stop (Json × CodeText) :=
  match cs with
  | [] => .error (.problem .expectingValue [])
  | c :: rest =>
    if c = .char '"' then do
      let (s, rest) ← scanString cs [] rest
      return (.text s, rest)
    else if c = .char '[' then
      match depth with
      | 0 => .error (.nesting .array)
      | depth + 1 =>
        match skipWhitespace rest with
        | .char ']' :: rest => .ok (.array [], rest)
        | rest => do
          let (items, rest) ← scanItems (scanValue width depth) width rest
          return (.array items, rest)
    else if c = .char '\x7b' then
      match depth with
      | 0 => .error (.nesting .object)
      | depth + 1 =>
        match skipWhitespace rest with
        | .char '\x7d' :: rest => .ok (.object [], rest)
        | rest => do
          let (pairs, rest) ← scanMembers (scanValue width depth) width rest
          return (.object (Named.ofPairs pairs), rest)
    else
      match scanWord? cs with
      | some found => .ok found
      | none => scanNumber cs

/-! ### Whole texts -/

/-- A place in a text: line and column from one, and the number of code points before it. -/
structure Place where
  line : Nat
  column : Nat
  offset : Nat
deriving DecidableEq, Repr, Inhabited

/-- The place behind so many code points. -/
def Place.ofOffset (text : CodeText) (offset : Nat) : Place :=
  let before := text.take offset
  { line := before.count (.char '\n') + 1
    column := (before.reverse.takeWhile (· ≠ .char '\n')).length + 1
    offset }

/-- Why a text is no JSON value that can be read. -/
inductive ReadError
  | problem (p : Problem) (place : Place)
  | nesting (c : Container)
  | longWhole (digits : Nat)
deriving DecidableEq, Repr

/-- What is said about a problem at a place. -/
def problemMessage (p : Problem) (place : Place) : String :=
  p.message ++ ": line " ++ toString place.line ++ " column " ++ toString place.column ++
    " (char " ++ toString place.offset ++ ")"

/-- The stop of a scan with its place in the whole text. -/
def Stop.locate (text : CodeText) : Stop → ReadError
  | problem p rest => .problem p (Place.ofOffset text (text.length - rest.length))
  | nesting c => .nesting c
  | longWhole digits => .longWhole digits

/-- A value with whitespace on both sides and nothing else.  No more values lie side by side in it
than the text has code points. -/
def scanDocument (depth : Depth) (text : CodeText) : Except Stop Json := do
  let (value, rest) ← scanValue text.length depth.levels (skipWhitespace text)
  match skipWhitespace rest with
  | [] => return value
  | rest => throw (.problem .extraData rest)

/-- The value that a whole text writes. -/
def read (depth : Depth) (text : CodeText) : Except ReadError Json :=
  (scanDocument depth text).mapError (Stop.locate text)

/-- The value that a whole text writes; a byte order mark in front is a problem of its own. -/
def readUnmarked (depth : Depth) (text : CodeText) : Except ReadError Json :=
  match text with
  | .char '\ufeff' :: _ => .error (.problem .byteOrderMark (Place.ofOffset text 0))
  | _ => read depth text

end MetricIntake.Json
