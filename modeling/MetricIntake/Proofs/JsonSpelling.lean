import MetricIntake.Proofs.JsonLimits
import MetricIntake.Proofs.PlainNumbers
import MetricIntake.Proofs.Utf8

/-!
# Spelled JSON

`Json.Spells` says which texts spell a value: characters plain or escaped in any way, halves of
characters by their numbers, numbers in any form, and whitespace wherever it may stand.  Objects may
have several members of one name; `Json.decoded` keeps the last of each, as the reader does.

The reader takes a spelled value off the text in front of which it stands (`takes_scanValue`), and
whitespace around it aside that is the whole text: `readUnmarked_of_spellsDocument`.
-/

namespace MetricIntake.Json

/-! ### The grammar -/

/-- Nothing but whitespace. -/
def IsGap (gap : List Char) : Prop := ∀ c ∈ gap, isWhitespace c = true

/-- The letters behind a backslash, each with the character that both stand for. -/
def shortEscapes : List (Char × Char) :=
  [('"', '"'), ('\\', '\\'), ('/', '/'), ('b', '\x08'), ('f', '\x0c'), ('n', '\n'), ('r', '\r'),
    ('t', '\t')]

/-- Four hexadecimal digits in either case, and the number that they write. -/
inductive IsUnit : List Char → Nat → Prop
  | digits {a b c d : Char} {w x y z : Nat} (ha : Text.hexValue? a = some w)
      (hb : Text.hexValue? b = some x) (hc : Text.hexValue? c = some y)
      (hd : Text.hexValue? d = some z) : IsUnit [a, b, c, d] (((w * 16 + x) * 16 + y) * 16 + z)

/-- The ways to spell a character between quotes: itself, an escape of one letter, its number, and
two numbers that are its halves. -/
inductive SpellsChar : List Char → Char → Prop
  | plain {c : Char} (hquote : c ≠ '"') (hback : c ≠ '\\') (hcontrol : 0x20 ≤ c.toNat) :
      SpellsChar [c] c
  | short {letter c : Char} (h : (letter, c) ∈ shortEscapes) : SpellsChar ['\\', letter] c
  | unit {digits : List Char} {c : Char} (h : IsUnit digits c.toNat) :
      SpellsChar ('\\' :: 'u' :: digits) c
  | pair {high low : List Char} {c : Char} {h l : Nat} (hhigh : IsUnit high (0xD800 + h))
      (hlow : IsUnit low (0xDC00 + l)) (hl : l < 0x400)
      (hc : c.toNat = 0x10000 + h * 0x400 + l) :
      SpellsChar ('\\' :: 'u' :: (high ++ '\\' :: 'u' :: low)) c

/-- What stands between the quotes of a text.  A half of a character can only be spelled by its
number; a first half with a second one behind it would be spelled as their character is. -/
inductive SpellsChars : List Char → CodeText → Prop
  | nil : SpellsChars [] []
  | char {spelled rest : List Char} {c : Char} {s : CodeText} (hc : SpellsChar spelled c)
      (hs : SpellsChars rest s) : SpellsChars (spelled ++ rest) (.char c :: s)
  | half {digits rest : List Char} {offset : Fin 0x800} {s : CodeText}
      (hunit : IsUnit digits (CodePoint.half offset).value)
      (halone : offset.val < 0x400 → ∀ low, 0x400 ≤ low.val → s.head? ≠ some (.half low))
      (hs : SpellsChars rest s) :
      SpellsChars ('\\' :: 'u' :: (digits ++ rest)) (.half offset :: s)

/-- Nothing, or a point and digits. -/
inductive IsFraction : List Char → List Char → Prop
  | none : IsFraction [] []
  | point {ds : List Char} (hne : ds ≠ []) (hds : ∀ c ∈ ds, isDigit c = true) :
      IsFraction ('.' :: ds) ds

/-- The numbers: whole ones, which have no more digits than may be, and those with a fraction or an
exponent, which are doubles. -/
inductive SpellsNumber : List Char → Json → Prop
  | whole (negative : Bool) {digits : List Char} (hdigits : IsPlainWhole digits)
      (hlimit : digits.length ≤ Numeral.digitsLimit) :
      SpellsNumber (signText negative ++ digits)
        (.whole (if negative then -(digitsValue digits : Int) else digitsValue digits))
  | double (negative : Bool) {digits point fraction exponent : List Char} {e : Int}
      (hdigits : IsPlainWhole digits) (hpoint : IsFraction point fraction)
      (hexponent : Numeral.IsExponent exponent e) (hne : point ++ exponent ≠ []) :
      SpellsNumber (signText negative ++ (digits ++ (point ++ exponent)))
        (.double (Decimal.toDouble
          { negative, digits := digitsValue (digits ++ fraction)
            exponent := e - fraction.length }))

/-- The values in which no others lie. -/
inductive SpellsLeaf : List Char → Json → Prop
  | null : SpellsLeaf ['n', 'u', 'l', 'l'] .null
  | true : SpellsLeaf ['t', 'r', 'u', 'e'] (.bool true)
  | false : SpellsLeaf ['f', 'a', 'l', 's', 'e'] (.bool false)
  | nan : SpellsLeaf ['N', 'a', 'N'] (.double .nan)
  | infinity (negative : Bool) :
      SpellsLeaf (signText negative ++ ['I', 'n', 'f', 'i', 'n', 'i', 't', 'y'])
        (.double (.infinite negative))
  | number {text : List Char} {v : Json} (h : SpellsNumber text v) : SpellsLeaf text v
  | text {spelled : List Char} {s : CodeText} (h : SpellsChars spelled s) :
      SpellsLeaf ('"' :: (spelled ++ ['"'])) (.text s)

/-- What stands behind an opening bracket and the gap behind it: parts with commas between them, if
there are any, up to the closing bracket. -/
inductive SpellsParts {α : Type} (close : Char) (part : List Char → α → Prop) :
    List Char → List α → Prop
  | last {text gap : List Char} {x : α} (hpart : part text x) (hgap : IsGap gap) :
      SpellsParts close part (text ++ (gap ++ [close])) [x]
  | more {text gap gap' rest : List Char} {x : α} {xs : List α} (hpart : part text x)
      (hgap : IsGap gap) (hgap' : IsGap gap') (hparts : SpellsParts close part rest xs) :
      SpellsParts close part (text ++ (gap ++ ',' :: (gap' ++ rest))) (x :: xs)

/-- A name, a colon and a value. -/
inductive SpellsMember (value : List Char → Json → Prop) : List Char → CodeText × Json → Prop
  | pair {spelled gap gap' text : List Char} {name : CodeText} {v : Json}
      (hname : SpellsChars spelled name) (hgap : IsGap gap) (hgap' : IsGap gap')
      (hvalue : value text v) :
      SpellsMember value ('"' :: (spelled ++ '"' :: (gap ++ ':' :: (gap' ++ text)))) (name, v)

/-- Leaves, and arrays and objects of such values. -/
inductive SpellsOver (value : List Char → Json → Prop) : List Char → Json → Prop
  | leaf {text : List Char} {v : Json} (h : SpellsLeaf text v) : SpellsOver value text v
  | emptyArray {gap : List Char} (hgap : IsGap gap) :
      SpellsOver value ('[' :: (gap ++ [']'])) (.array [])
  | array {gap text : List Char} {items : List Json} (hgap : IsGap gap)
      (hitems : SpellsParts ']' value text items) :
      SpellsOver value ('[' :: (gap ++ text)) (.array items)
  | emptyObject {gap : List Char} (hgap : IsGap gap) :
      SpellsOver value ('\x7b' :: (gap ++ ['\x7d'])) (.object [])
  | object {gap text : List Char} {members : List (CodeText × Json)} (hgap : IsGap gap)
      (hmembers : SpellsParts '\x7d' (SpellsMember value) text members) :
      SpellsOver value ('\x7b' :: (gap ++ text)) (.object members)

/-- The texts that spell a value inside which values lie at most so deep.  An object has its members
as they stand in the text. -/
def Spells : Nat → List Char → Json → Prop
  | 0 => SpellsLeaf
  | depth + 1 => SpellsOver (Spells depth)

/-- A leaf is a value, however deep it lies. -/
theorem SpellsLeaf.spells {text : List Char} {v : Json} (h : SpellsLeaf text v) (depth : Nat) :
    Spells depth text v := by
  cases depth with
  | zero => exact h
  | succ depth => exact .leaf h

/-- A character that may stand between quotes without an escape. -/
def isBare (c : Char) : Bool := c != '"' && c != '\\' && decide (0x20 ≤ c.toNat)

/-- Characters that need no escape spell themselves. -/
theorem spellsChars_self {cs : List Char} (h : cs.all isBare = true) :
    SpellsChars cs (.ofChars cs) := by
  induction cs with
  | nil => exact .nil
  | cons c cs ih =>
    simp only [List.all_cons, isBare, Bool.and_eq_true, bne_iff_ne, decide_eq_true_eq] at h
    obtain ⟨⟨⟨hquote, hback⟩, hcontrol⟩, hcs⟩ := h
    exact .char (.plain hquote hback hcontrol) (ih hcs)

/-- A spelled value with whitespace around it, no deeper than the reader goes. -/
inductive SpellsDocument (depth : Depth) : List Char → Json → Prop
  | value {gap gap' text : List Char} {v : Json} (hgap : IsGap gap)
      (hvalue : Spells depth.levels text v) (hgap' : IsGap gap') :
      SpellsDocument depth (gap ++ (text ++ gap')) v

mutual

/-- A value of which each object has every name once, with the last of its values. -/
def decoded : Json → Json
  | array items => array (decodedItems items)
  | object members => object (Named.putAll [] (decodedMembers members))
  | null => null
  | bool b => bool b
  | whole n => whole n
  | double x => double x
  | text s => text s

/-- The items of an array. -/
def decodedItems : List Json → List Json
  | [] => []
  | item :: items => decoded item :: decodedItems items

/-- The members of an object, as many as there are. -/
def decodedMembers : List (CodeText × Json) → List (CodeText × Json)
  | [] => []
  | (name, value) :: members => (name, decoded value) :: decodedMembers members

end

/-- A value in which no others lie stays as it is. -/
theorem decoded_of_spellsLeaf {text : List Char} {v : Json} (h : SpellsLeaf text v) :
    decoded v = v := by
  cases h with
  | number h => cases h <;> rfl
  | _ => rfl

/-! ### Gaps -/

theorem skipWhitespace_gap {gap : List Char} (h : IsGap gap) (rest : CodeText) :
    skipWhitespace (CodeText.ofChars gap ++ rest) = skipWhitespace rest := by
  have hblank : ∀ p ∈ CodeText.ofChars gap, CodePoint.isIn isWhitespace p = true := by
    intro p hp
    obtain ⟨c, hc, rfl⟩ := List.mem_map.1 hp
    exact h c hc
  rw [skipWhitespace, List.dropWhile_append_of_pos hblank, skipWhitespace]

/-- A character that is no whitespace ends a gap. -/
theorem skipWhitespace_gap_char {gap : List Char} (h : IsGap gap) {c : Char}
    (hc : isWhitespace c = false) (rest : CodeText) :
    skipWhitespace (CodeText.ofChars gap ++ .char c :: rest) = .char c :: rest := by
  rw [skipWhitespace_gap h, skipWhitespace_char hc]

/-! ### Texts -/

theorem scanUnit?_of_isUnit {digits : List Char} {n : Nat} (h : IsUnit digits n) (x : CodePoint)
    (rest : CodeText) : scanUnit? (CodeText.ofChars digits ++ x :: rest) = some (n, x :: rest) := by
  cases h with
  | digits ha hb hc hd =>
    simp [CodeText.ofChars, scanUnit?, hexUnit?, CodePoint.char?, ha, hb, hc, hd]

/-- No half of a character is the number of one. -/
theorem isHighSurrogate_toNat (c : Char) : isHighSurrogate c.toNat = false := by
  have hvalid := Utf8.char_toNat_valid c
  simp [isHighSurrogate]
  omega

theorem ofNat_toNat (c : Char) : CodePoint.ofNat c.toNat = .char c := by
  have hvalid := Utf8.char_toNat_valid c
  unfold CodePoint.ofNat CodePoint.firstHalf
  rw [dif_neg (by omega), Char.ofNat_toNat]

/-- A character is read from the number that it has. -/
theorem scanUnicode_of_isUnit {digits : List Char} {c : Char} (h : IsUnit digits c.toNat)
    (x : CodePoint) (rest : CodeText) :
    scanUnicode (CodeText.ofChars digits ++ x :: rest) = .ok (.char c, x :: rest) := by
  rw [scanUnicode, scanUnit?_of_isUnit h]
  simp [isHighSurrogate_toNat, ofNat_toNat]

/-- A character is read from the numbers of its halves. -/
theorem scanUnicode_of_halves {high low : List Char} {c : Char} {h l : Nat}
    (hhigh : IsUnit high (0xD800 + h)) (hlow : IsUnit low (0xDC00 + l)) (hl : l < 0x400)
    (hc : c.toNat = 0x10000 + h * 0x400 + l) (x : CodePoint) (rest : CodeText) :
    scanUnicode (CodeText.ofChars high ++ .char '\\' :: .char 'u' ::
        (CodeText.ofChars low ++ x :: rest)) =
      .ok (.char c, x :: rest) := by
  have hvalid := Utf8.char_toNat_valid c
  have hishigh : isHighSurrogate (0xD800 + h) = true := by
    simp [isHighSurrogate]
    omega
  have hislow : isLowSurrogate (0xDC00 + l) = true := by
    simp [isLowSurrogate]
    omega
  have hscan : scanLowHalf? (.char '\\' :: .char 'u' :: (CodeText.ofChars low ++ x :: rest)) =
      some (0xDC00 + l, x :: rest) := by
    rw [scanLowHalf?, scanUnit?_of_isUnit hlow]
    exact Option.filter_some_pos hislow
  have hjoin : joinSurrogates (0xD800 + h) (0xDC00 + l) = c := by
    rw [joinSurrogates, Nat.add_sub_cancel_left, Nat.add_sub_cancel_left, ← hc, Char.ofNat_toNat]
  rw [scanUnicode, scanUnit?_of_isUnit hhigh]
  dsimp only
  rw [if_pos hishigh, hscan]
  dsimp only
  rw [hjoin]

theorem shortEscape?_of_mem :
    ∀ p ∈ shortEscapes, p.1 ≠ 'u' ∧ shortEscape? p.1 = some p.2 := by
  decide

/-- **A spelled character** is one step of the reader. -/
theorem scanString_of_spellsChar {spelled : List Char} {c : Char} (h : SpellsChar spelled c)
    (opening acc : CodeText) (x : CodePoint) (rest : CodeText) :
    scanString opening acc (CodeText.ofChars spelled ++ x :: rest) =
      scanString opening (.char c :: acc) (x :: rest) := by
  cases h with
  | plain hquote hback hcontrol =>
    have hvalue : ¬ (CodePoint.char c).value ≤ 0x1F := by
      show ¬ c.toNat ≤ 0x1F
      omega
    show scanString opening acc (.char c :: x :: rest) = _
    rw [scanString, if_neg (by simpa using hquote), if_neg (by simpa using hback), if_neg hvalue]
  | short hmem =>
    rename_i letter
    obtain ⟨hu, hshort⟩ := shortEscape?_of_mem _ hmem
    refine scanString_escape ?_
    show scanEscape opening (.char letter :: x :: rest) = _
    rw [scanEscape, if_neg (by simpa using hu)]
    simp [CodePoint.char?, hshort]
  | unit hunit =>
    rename_i digits
    refine scanString_escape ?_
    show scanEscape opening (.char 'u' :: (CodeText.ofChars digits ++ x :: rest)) = _
    rw [scanEscape, if_pos rfl, scanUnicode_of_isUnit hunit]
  | pair hhigh hlow hl hc =>
    rename_i high low h l
    have hsplit : CodeText.ofChars ('\\' :: 'u' :: (high ++ '\\' :: 'u' :: low)) ++ x :: rest =
        .char '\\' :: .char 'u' :: (CodeText.ofChars high ++ .char '\\' :: .char 'u' ::
          (CodeText.ofChars low ++ x :: rest)) := by
      simp [CodeText.ofChars]
    rw [hsplit]
    refine scanString_escape ?_
    rw [scanEscape, if_pos rfl, scanUnicode_of_halves hhigh hlow hl hc]

/-- In front of a quote there is something in any case. -/
theorem exists_cons_quote (cs : List Char) (rest : CodeText) :
    ∃ x more, CodeText.ofChars cs ++ .char '"' :: rest = x :: more := by
  cases cs with
  | nil => exact ⟨_, _, rfl⟩
  | cons c cs => exact ⟨_, _, rfl⟩

/-- The number of a first half is not that of a second one, nor is the number of a character. -/
theorem isLowSurrogate_eq_false {n : Nat}
    (h : (∃ c : Char, n = c.toNat) ∨ ∃ h < 0x400, n = 0xD800 + h) : isLowSurrogate n = false := by
  simp only [isLowSurrogate, Bool.and_eq_false_imp, decide_eq_true_eq, decide_eq_false_iff_not]
  rcases h with ⟨c, rfl⟩ | ⟨h, hlt, rfl⟩
  · have hvalid := Utf8.char_toNat_valid c
    omega
  · omega

theorem scanLowHalf?_unit {digits : List Char} {n : Nat} (h : IsUnit digits n)
    (hlow : isLowSurrogate n = false) (x : CodePoint) (rest : CodeText) :
    scanLowHalf? (.char '\\' :: .char 'u' :: (CodeText.ofChars digits ++ x :: rest)) = none := by
  rw [scanLowHalf?, scanUnit?_of_isUnit h]
  exact Option.filter_some_neg (by simpa using hlow)

/-- Where no second half is spelled none is read. -/
theorem scanLowHalf?_of_spellsChars {spelled : List Char} {s : CodeText}
    (h : SpellsChars spelled s)
    (hs : ∀ low : Fin 0x800, 0x400 ≤ low.val → s.head? ≠ some (.half low)) (rest : CodeText) :
    scanLowHalf? (CodeText.ofChars spelled ++ .char '"' :: rest) = none := by
  have hunit {digits behind : List Char} {n : Nat} (h : IsUnit digits n)
      (hlow : isLowSurrogate n = false) :
      scanLowHalf? (CodeText.ofChars ('\\' :: 'u' :: (digits ++ behind)) ++ .char '"' :: rest) =
        none := by
    obtain ⟨x, more, hmore⟩ := exists_cons_quote behind rest
    rw [← scanLowHalf?_unit h hlow x more, ← hmore]
    simp [CodeText.ofChars]
  -- only a number could be a second half, and neither a character's nor a first half's is
  cases h with
  | nil => rfl
  | @char _ behind c s hc =>
    cases hc with
    | plain hquote hback hcontrol =>
      unfold scanLowHalf?
      split
      · rename_i hfirst
        exact absurd (CodePoint.char.inj (List.cons.inj hfirst).1) hback
      · rfl
    | short hmem =>
      rename_i letter
      have hu : letter ≠ 'u' := (shortEscape?_of_mem _ hmem).1
      unfold scanLowHalf?
      split
      · rename_i hfirst
        exact absurd (CodePoint.char.inj (List.cons.inj (List.cons.inj hfirst).2).1) hu
      · rfl
    | unit h => exact hunit h (isLowSurrogate_eq_false (.inl ⟨c, rfl⟩))
    | @pair high low _ h l hhigh hlow hl hc =>
      have hvalid := Utf8.char_toNat_valid c
      rw [List.cons_append, List.cons_append, List.append_assoc]
      exact hunit hhigh (isLowSurrogate_eq_false (.inr ⟨h, by omega, rfl⟩))
  | @half digits behind offset s h =>
    have hoffset : offset.val < 0x400 := by
      by_contra hlow
      exact hs offset (Nat.le_of_not_lt hlow) rfl
    exact hunit h (isLowSurrogate_eq_false (.inr ⟨offset, hoffset, rfl⟩))

/-- A half of a character that is alone is read from its number. -/
theorem scanUnicode_of_half {digits : List Char} {offset : Fin 0x800} {rest : CodeText}
    (h : IsUnit digits (CodePoint.half offset).value) (hne : rest ≠ [])
    (halone : offset.val < 0x400 → scanLowHalf? rest = none) :
    scanUnicode (CodeText.ofChars digits ++ rest) = .ok (.half offset, rest) := by
  obtain ⟨x, rest, rfl⟩ := List.exists_cons_of_ne_nil hne
  have hpoint : CodePoint.ofNat (CodePoint.half offset).value = .half offset := by
    have hlt := offset.isLt
    unfold CodePoint.ofNat CodePoint.value
    rw [dif_pos ⟨Nat.le_add_right _ _, Nat.add_lt_add_left hlt _⟩]
    exact congrArg CodePoint.half (Fin.ext (Nat.add_sub_cancel_left _ _))
  rw [scanUnicode, scanUnit?_of_isUnit h]
  dsimp only
  split
  · rename_i hhigh
    have hoffset : offset.val < 0x400 := by
      simp only [isHighSurrogate, Bool.and_eq_true, decide_eq_true_eq] at hhigh
      have hlt : 0xD800 + offset.val < 0xDC00 := hhigh.2
      omega
    rw [halone hoffset, hpoint]
  · rw [hpoint]

/-- **A spelled text is read up to its closing quote.** -/
theorem scanString_of_spellsChars {spelled : List Char} {s : CodeText} (h : SpellsChars spelled s)
    (opening acc rest : CodeText) :
    scanString opening acc (CodeText.ofChars spelled ++ .char '"' :: rest) =
      .ok (acc.reverse ++ s, rest) := by
  induction h generalizing acc with
  | nil =>
    show scanString opening acc (.char '"' :: rest) = _
    rw [scanString, if_pos rfl, List.append_nil]
  | @char spelled behind c s hc _ ih =>
    obtain ⟨x, more, hmore⟩ := exists_cons_quote behind rest
    have hsplit : CodeText.ofChars (spelled ++ behind) ++ .char '"' :: rest =
        CodeText.ofChars spelled ++ x :: more := by
      rw [← hmore, CodeText.ofChars, List.map_append, List.append_assoc]
      rfl
    rw [hsplit, scanString_of_spellsChar hc, ← hmore, ih]
    simp
  | @half digits behind offset s hunit halone hs ih =>
    have hsplit : CodeText.ofChars ('\\' :: 'u' :: (digits ++ behind)) ++ .char '"' :: rest =
        .char '\\' :: .char 'u' ::
          (CodeText.ofChars digits ++ (CodeText.ofChars behind ++ .char '"' :: rest)) := by
      simp [CodeText.ofChars]
    have hne : CodeText.ofChars behind ++ .char '"' :: rest ≠ [] := by simp
    have hscan := scanUnicode_of_half hunit hne fun hhigh =>
      scanLowHalf?_of_spellsChars hs (halone hhigh) rest
    have hescape : scanEscape opening (.char 'u' :: (CodeText.ofChars digits ++
        (CodeText.ofChars behind ++ .char '"' :: rest))) =
          .ok (.half offset, CodeText.ofChars behind ++ .char '"' :: rest) := by
      rw [scanEscape, if_pos rfl, hscan]
    rw [hsplit, scanString_escape hescape, ih]
    simp

/-! ### Numbers -/

/-- The digits of a whole number are taken off the text in front of which they stand. -/
theorem scanWhole_of_isPlainWhole {digits rest : List Char} (h : IsPlainWhole digits)
    (hrest : ∀ c ∈ rest.head?, isDigit c = false) :
    scanWhole (digits ++ rest) = some (digits, rest) := by
  cases h with
  | zero => rfl
  | digits hc h0 hds =>
    obtain ⟨htake, hdrop⟩ := Numeral.span_isDigit hds hrest
    rw [List.cons_append, scanWhole, if_neg h0, if_pos hc, htake, hdrop]

/-- A fraction is read in front of an exponent. -/
theorem scanDecimals_of_isFraction {point fraction exponent : List Char} {e : Int}
    (h : IsFraction point fraction) (hexponent : Numeral.IsExponent exponent e) :
    scanDecimals (point ++ exponent) = (fraction, exponent) := by
  have hletter := Numeral.head?_of_isExponent hexponent
  cases h with
  | none =>
    cases exponent with
    | nil => rfl
    | cons c cs => rcases hletter c rfl with rfl | rfl <;> rfl
  | point hne hds =>
    have hend : ∀ c ∈ exponent.head?, isDigit c = false := by
      intro c hc
      rcases hletter c hc with rfl | rfl <;> rfl
    obtain ⟨htake, hdrop⟩ := Numeral.span_isDigit hds hend
    cases fraction with
    | nil => exact absurd rfl hne
    | cons d ds =>
      have hscan : Numeral.scanFraction ('.' :: (d :: ds) ++ exponent) =
          some (d :: ds, exponent) := by
        rw [List.cons_append, Numeral.scanFraction, htake, hdrop]
      rw [scanDecimals, hscan]

/-- What follows the digits of a number does not start with one. -/
theorem isDigit_head?_of_isFraction {point fraction exponent : List Char} {e : Int}
    (h : IsFraction point fraction) (hexponent : Numeral.IsExponent exponent e) :
    ∀ c ∈ (point ++ exponent).head?, isDigit c = false := by
  cases h with
  | none =>
    intro c hc
    rcases Numeral.head?_of_isExponent hexponent c hc with rfl | rfl <;> rfl
  | point => simp [isDigit]

/-- The first digit of a number, and what stands behind it. -/
theorem exists_digit_of_isPlainWhole {digits : List Char} (h : IsPlainWhole digits) :
    ∃ c ds, digits = c :: ds ∧ isDigit c = true ∧ ∀ d ∈ ds, isDigit d = true := by
  cases h with
  | zero => exact ⟨_, _, rfl, rfl, by simp⟩
  | digits hc h0 hds => exact ⟨_, _, rfl, hc, hds⟩

/-- Behind a sign the digits of a number are read, and then its fraction and exponent. -/
theorem scanNumeral?_sign (negative : Bool) {digits rest fraction behind : List Char}
    (h : IsPlainWhole digits) (hrest : ∀ c ∈ rest.head?, isDigit c = false)
    (hdecimals : scanDecimals rest = (fraction, behind)) :
    scanNumeral? (signText negative ++ (digits ++ rest)) =
      some (if fraction.isEmpty && (Numeral.scanExponent behind).isNone then
        if Numeral.digitsLimit < digits.length then .error (.longWhole digits.length)
        else
          .ok (.whole (if negative then -(digitsValue digits : Int) else digitsValue digits),
            behind)
      else
        let (e, behind) := (Numeral.scanExponent behind).getD (0, behind)
        .ok (.double (Decimal.toDouble
          { negative, digits := digitsValue (digits ++ fraction)
            exponent := e - fraction.length }), behind)) := by
  have hwhole := scanWhole_of_isPlainWhole h hrest
  unfold scanNumeral?
  split
  rename_i negative' body hsign
  have hbody : (negative', body) = (negative, digits ++ rest) := by
    rw [← hsign]
    obtain ⟨c, ds, rfl, hc, -⟩ := exists_digit_of_isPlainWhole h
    have hminus : c ≠ '-' := ne_of_isDigit hc rfl
    cases negative <;> simp [signText, hminus]
  obtain ⟨rfl, rfl⟩ := Prod.mk.inj hbody
  rw [hwhole, Option.map_some]
  dsimp only
  rw [hdecimals]

/-- **A spelled number is read whole.** -/
theorem scanNumeral?_of_spellsNumber {text : List Char} {v : Json} (h : SpellsNumber text v) :
    scanNumeral? text = some (.ok (v, [])) := by
  cases h with
  | whole negative hdigits hlimit =>
    have hend : ∀ c ∈ ([] : List Char).head?, isDigit c = false := by simp
    have hscan := scanNumeral?_sign negative hdigits hend rfl
    rw [List.append_nil] at hscan
    rw [hscan]
    simp [Numeral.scanExponent, Nat.not_lt.2 hlimit]
  | double negative hdigits hpoint hexponent hne =>
    rename_i digits point fraction exponent e
    have hscan := scanNumeral?_sign negative hdigits
      (isDigit_head?_of_isFraction hpoint hexponent) (scanDecimals_of_isFraction hpoint hexponent)
    rw [hscan]
    cases exponent with
    | nil =>
      cases hexponent
      cases hpoint with
      | none => exact absurd rfl hne
      | point hds =>
        have hsome : fraction.isEmpty = false := List.isEmpty_eq_false_iff.2 hds
        simp [hsome, Numeral.scanExponent]
    | cons c cs => simp [Numeral.scanExponent_of_isExponent hexponent]

/-- There are no other characters in a number. -/
theorem isInNumber_of_spellsNumber {text : List Char} {v : Json} (h : SpellsNumber text v) :
    ∀ c ∈ text, isInNumber c = true := by
  have hdigit {c : Char} (hc : isDigit c = true) : isInNumber c = true := by
    simp [isInNumber, hc]
  have hsign (negative : Bool) : ∀ c ∈ signText negative, isInNumber c = true := by
    cases negative <;> simp [signText, isInNumber]
  have hwhole {digits : List Char} (h : IsPlainWhole digits) :
      ∀ c ∈ digits, isInNumber c = true := by
    obtain ⟨c, ds, rfl, hc, hds⟩ := exists_digit_of_isPlainWhole h
    exact List.forall_mem_cons.2 ⟨hdigit hc, fun d hd => hdigit (hds d hd)⟩
  cases h with
  | whole negative hdigits =>
    exact List.forall_mem_append.2 ⟨hsign negative, hwhole hdigits⟩
  | double negative hdigits hpoint hexponent =>
    refine List.forall_mem_append.2 ⟨hsign negative, List.forall_mem_append.2
      ⟨hwhole hdigits, List.forall_mem_append.2 ⟨?_, ?_⟩⟩⟩
    · cases hpoint with
      | none => simp
      | point hne hds => exact List.forall_mem_cons.2 ⟨rfl, fun d hd => hdigit (hds d hd)⟩
    · cases hexponent with
      | none => simp
      | letter hletter hsign' hne hds =>
        refine List.forall_mem_cons.2 ⟨?_, List.forall_mem_append.2
          ⟨?_, fun d hd => hdigit (hds d hd)⟩⟩
        · rcases hletter with rfl | rfl <;> rfl
        · cases hsign' <;> simp [isInNumber]

/-- A text that no number goes on into. -/
def EndsNumber (rest : CodeText) : Prop := ∀ p ∈ rest.head?, CodePoint.isIn isInNumber p = false

/-- **A spelled number is read up to its end.** -/
theorem scanNumber_of_spellsNumber {text : List Char} {v : Json} (h : SpellsNumber text v)
    {rest : CodeText} (hrest : EndsNumber rest) :
    scanNumber (CodeText.ofChars text ++ rest) = .ok (v, rest) := by
  have hin : ∀ p ∈ CodeText.ofChars text, CodePoint.isIn isInNumber p = true := by
    intro p hp
    obtain ⟨c, hc, rfl⟩ := List.mem_map.1 hp
    exact isInNumber_of_spellsNumber h c hc
  have hend : rest.takeWhile (CodePoint.isIn isInNumber) = [] ∧
      rest.dropWhile (CodePoint.isIn isInNumber) = rest := by
    cases rest with
    | nil => exact ⟨rfl, rfl⟩
    | cons p rest => simp [hrest p rfl]
  unfold scanNumber
  rw [List.span_eq_takeWhile_dropWhile, List.takeWhile_append_of_pos hin,
    List.dropWhile_append_of_pos hin, hend.1, hend.2, List.append_nil]
  dsimp only
  rw [CodeText.filterMap_char?_ofChars, scanNumeral?_of_spellsNumber h]
  rfl

/-- A number starts with a digit, behind its sign. -/
theorem exists_digit_of_spellsNumber {text : List Char} {v : Json} (h : SpellsNumber text v) :
    ∃ negative c tail, text = signText negative ++ c :: tail ∧ isDigit c = true := by
  cases h with
  | whole negative hdigits =>
    obtain ⟨c, ds, rfl, hc, -⟩ := exists_digit_of_isPlainWhole hdigits
    exact ⟨negative, c, ds, rfl, hc⟩
  | double negative hdigits =>
    obtain ⟨c, ds, rfl, hc, -⟩ := exists_digit_of_isPlainWhole hdigits
    exact ⟨negative, c, _, rfl, hc⟩

/-! ### Values -/

/-- How a value starts: with neither whitespace nor a closing bracket or brace nor a byte order
mark. -/
def startsValue (c : Char) : Bool :=
  !isWhitespace c && c != ']' && c != '\x7d' && c != '\ufeff'

theorem startsValue_of_isDigit {c : Char} (h : isDigit c = true) : startsValue c = true := by
  have hne (d : Char) (hd : isDigit d = false) : c ≠ d := ne_of_isDigit h hd
  simp [startsValue, isWhitespace, hne ' ' rfl, hne '\t' rfl, hne '\n' rfl, hne '\r' rfl,
    hne ']' rfl, hne '\x7d' rfl, hne '\ufeff' rfl]

theorem exists_start_of_spellsLeaf {text : List Char} {v : Json} (h : SpellsLeaf text v) :
    ∃ c tail, text = c :: tail ∧ startsValue c = true := by
  cases h with
  | number h =>
    obtain ⟨negative, c, tail, rfl, hc⟩ := exists_digit_of_spellsNumber h
    cases negative
    · exact ⟨c, tail, rfl, startsValue_of_isDigit hc⟩
    · exact ⟨'-', c :: tail, rfl, by decide⟩
  | infinity negative => cases negative <;> exact ⟨_, _, rfl, by decide⟩
  | _ => exact ⟨_, _, rfl, by decide⟩

theorem exists_start_of_spells {depth : Nat} {text : List Char} {v : Json}
    (h : Spells depth text v) : ∃ c tail, text = c :: tail ∧ startsValue c = true := by
  cases depth with
  | zero => exact exists_start_of_spellsLeaf h
  | succ depth =>
    cases h with
    | leaf h => exact exists_start_of_spellsLeaf h
    | _ => exact ⟨_, _, rfl, by decide⟩

/-- A spelled leaf is taken off the text in front of which it stands. -/
theorem scanValue_of_spellsLeaf {text : List Char} {v : Json} (h : SpellsLeaf text v)
    (width depth : Nat) {rest : CodeText} (hrest : EndsNumber rest) :
    scanValue width depth (CodeText.ofChars text ++ rest) = .ok (v, rest) := by
  cases h with
  | number h =>
    have hscan := scanNumber_of_spellsNumber h hrest
    obtain ⟨negative, c, tail, rfl, hc⟩ := exists_digit_of_spellsNumber h
    rw [CodeText.ofChars, List.map_append, List.append_assoc] at hscan ⊢
    exact (scanValue_digit negative hc width depth _).trans hscan
  | @text spelled s h =>
    have hsplit : CodeText.ofChars ('"' :: (spelled ++ ['"'])) ++ rest =
        .char '"' :: (CodeText.ofChars spelled ++ .char '"' :: rest) := by
      simp [CodeText.ofChars]
    rw [hsplit]
    unfold scanValue
    rw [if_pos rfl, scanString_of_spellsChars h]
    rfl
  | infinity negative => cases negative <;> (unfold scanValue; rfl)
  | _ => unfold scanValue; rfl

/-! ### Values in values -/

theorem skipWhitespace_start {c : Char} (h : startsValue c = true) (rest : CodeText) :
    skipWhitespace (.char c :: rest) = .char c :: rest := by
  refine skipWhitespace_char ?_ rest
  simp only [startsValue, Bool.and_eq_true, Bool.not_eq_true'] at h
  exact h.1.1.1

/-- Whitespace and what is behind it end a number, unless that starts with one. -/
theorem endsNumber_gap {gap : List Char} (h : IsGap gap) {rest : CodeText}
    (hrest : EndsNumber rest) : EndsNumber (CodeText.ofChars gap ++ rest) := by
  cases gap with
  | nil => exact hrest
  | cons c gap =>
    have hc := h c List.mem_cons_self
    rintro p ⟨⟩
    simp only [isWhitespace, Bool.or_eq_true, decide_eq_true_eq] at hc
    rcases hc with ((rfl | rfl) | rfl) | rfl <;> rfl

theorem endsNumber_nil : EndsNumber [] := by
  rintro p ⟨⟩

theorem endsNumber_char {c : Char} (h : isInNumber c = false) (rest : CodeText) :
    EndsNumber (.char c :: rest) := by
  rintro p ⟨⟩
  exact h

/-- A function that reads values takes a spelled one off the text in front of which it stands, if it
is not too long. -/
structure Takes (item : CodeText → Except Stop (Json × CodeText))
    (value : List Char → Json → Prop) (width : Nat) : Prop where
  start : ∀ {text v}, value text v → ∃ c tail, text = c :: tail ∧ startsValue c = true
  scan : ∀ {text v}, value text v → text.length ≤ width → ∀ {rest}, EndsNumber rest →
    item (CodeText.ofChars text ++ rest) = .ok (decoded v, rest)

section Parts

variable {value : List Char → Json → Prop} {item : CodeText → Except Stop (Json × CodeText)}
variable {width : Nat}

/-- Parts start as the first of them does. -/
theorem exists_start_of_spellsParts {α : Type} {close : Char} {part : List Char → α → Prop}
    (hstart : ∀ {text x}, part text x → ∃ c tail, text = c :: tail ∧ startsValue c = true)
    {text : List Char} {xs : List α} (h : SpellsParts close part text xs) :
    ∃ c tail, text = c :: tail ∧ startsValue c = true := by
  cases h with
  | last hpart =>
    obtain ⟨c, tail, rfl, hc⟩ := hstart hpart
    exact ⟨c, _, rfl, hc⟩
  | more hpart =>
    obtain ⟨c, tail, rfl, hc⟩ := hstart hpart
    exact ⟨c, _, rfl, hc⟩

/-- Parts do not start with a character that starts no value. -/
theorem parts_ne_cons {α : Type} {close : Char} {part : List Char → α → Prop}
    (hstart : ∀ {text x}, part text x → ∃ c tail, text = c :: tail ∧ startsValue c = true)
    {text : List Char} {xs : List α} (h : SpellsParts close part text xs) {c : Char}
    (hc : startsValue c = false) (rest rest' : CodeText) :
    CodeText.ofChars text ++ rest ≠ .char c :: rest' := by
  obtain ⟨d, tail, rfl, hd⟩ := exists_start_of_spellsParts hstart h
  intro heq
  obtain rfl : d = c := CodePoint.char.inj (List.cons.inj heq).1
  rw [hc] at hd
  cases hd

/-- Nothing is skipped in front of parts but the gap. -/
theorem skipWhitespace_parts {α : Type} {close : Char} {part : List Char → α → Prop}
    (hstart : ∀ {text x}, part text x → ∃ c tail, text = c :: tail ∧ startsValue c = true)
    {gap text : List Char} {xs : List α} (hgap : IsGap gap) (h : SpellsParts close part text xs)
    (rest : CodeText) :
    skipWhitespace (CodeText.ofChars gap ++ (CodeText.ofChars text ++ rest)) =
      CodeText.ofChars text ++ rest := by
  obtain ⟨c, tail, rfl, hc⟩ := exists_start_of_spellsParts hstart h
  rw [skipWhitespace_gap hgap]
  exact skipWhitespace_start hc _

/-- **The items of an array are read up to its closing bracket.** -/
theorem scanItems_of_spellsParts (hitem : Takes item value width) {text : List Char}
    {items : List Json} (h : SpellsParts ']' value text items) {fuel : Nat}
    (hwidth : text.length ≤ width) (hfuel : text.length ≤ fuel) (rest : CodeText) :
    scanItems item fuel (CodeText.ofChars text ++ rest) = .ok (decodedItems items, rest) := by
  -- each part takes one unit of fuel and at least one character
  induction h generalizing fuel with
  | last hpart hgap =>
    rename_i text gap v
    have hsplit : CodeText.ofChars (text ++ (gap ++ [']'])) ++ rest =
        CodeText.ofChars text ++ (CodeText.ofChars gap ++ .char ']' :: rest) := by
      simp [CodeText.ofChars]
    simp only [List.length_append, List.length_singleton] at hwidth hfuel
    obtain ⟨fuel, rfl⟩ := Nat.exists_eq_succ_of_ne_zero (show fuel ≠ 0 by omega)
    have hscan := hitem.scan hpart (by omega)
      (endsNumber_gap hgap (endsNumber_char (c := ']') rfl rest))
    rw [hsplit, scanItems, hscan]
    dsimp only [bind, Except.bind]
    rw [skipWhitespace_gap_char hgap (by decide)]
    rfl
  | more hpart hgap hgap' hparts ih =>
    rename_i text gap gap' behind v vs
    have hsplit : CodeText.ofChars (text ++ (gap ++ ',' :: (gap' ++ behind))) ++ rest =
        CodeText.ofChars text ++ (CodeText.ofChars gap ++ .char ',' ::
          (CodeText.ofChars gap' ++ (CodeText.ofChars behind ++ rest))) := by
      simp [CodeText.ofChars]
    simp only [List.length_append, List.length_cons] at hwidth hfuel
    obtain ⟨fuel, rfl⟩ := Nat.exists_eq_succ_of_ne_zero (show fuel ≠ 0 by omega)
    have hscan := hitem.scan hpart (by omega) (endsNumber_gap hgap (endsNumber_char (c := ',') rfl
      (CodeText.ofChars gap' ++ (CodeText.ofChars behind ++ rest))))
    rw [hsplit, scanItems, hscan]
    dsimp only [bind, Except.bind]
    rw [skipWhitespace_gap_char hgap (by decide)]
    split
    · rename_i hbracket
      cases hbracket
    · rename_i hcomma
      obtain ⟨-, rfl⟩ := List.cons.inj hcomma
      rw [skipWhitespace_parts hitem.start hgap' hparts, ih (by omega) (by omega)]
      rfl
    · rename_i hcomma
      exact absurd rfl (hcomma _)

/-- A member starts with the quote of its name. -/
theorem exists_start_of_spellsMember {text : List Char} {member : CodeText × Json}
    (h : SpellsMember value text member) :
    ∃ c tail, text = c :: tail ∧ startsValue c = true := by
  cases h
  exact ⟨'"', _, rfl, by decide⟩

/-- A member is read, and what follows it is up to the next character. -/
theorem scanMembers_of_spellsMember (hitem : Takes item value width) {text : List Char}
    {name : CodeText} {v : Json} (h : SpellsMember value text (name, v))
    (hwidth : text.length ≤ width) (fuel : Nat) {tail : CodeText} (htail : EndsNumber tail) :
    scanMembers item (fuel + 1) (CodeText.ofChars text ++ tail) =
      match skipWhitespace tail with
      | .char '\x7d' :: rest => return ([(name, decoded v)], rest)
      | .char ',' :: rest => do
        let (pairs, rest) ← scanMembers item fuel (skipWhitespace rest)
        return ((name, decoded v) :: pairs, rest)
      | rest => throw (.problem .expectingComma rest) := by
  cases h with
  | pair hname hgap hgap' hvalue =>
    rename_i spelled gap gap' text
    have hsplit : CodeText.ofChars ('"' :: (spelled ++ '"' :: (gap ++ ':' :: (gap' ++ text)))) ++
        tail = .char '"' :: (CodeText.ofChars spelled ++ .char '"' :: (CodeText.ofChars gap ++
          .char ':' :: (CodeText.ofChars gap' ++ (CodeText.ofChars text ++ tail)))) := by
      simp [CodeText.ofChars]
    simp only [List.length_append, List.length_cons] at hwidth
    have hscan := hitem.scan hvalue (by omega) htail
    have hskip : skipWhitespace (CodeText.ofChars gap' ++ (CodeText.ofChars text ++ tail)) =
        CodeText.ofChars text ++ tail := by
      obtain ⟨c, behind, rfl, hc⟩ := hitem.start hvalue
      rw [skipWhitespace_gap hgap']
      exact skipWhitespace_start hc _
    rw [hsplit, scanMembers, scanString_of_spellsChars hname]
    dsimp only [bind, Except.bind, List.reverse_nil, List.nil_append]
    rw [skipWhitespace_gap_char hgap (by decide)]
    split
    · rename_i hcolon
      obtain ⟨-, rfl⟩ := List.cons.inj hcolon
      rw [hskip]
      generalize item (CodeText.ofChars text ++ tail) = found at hscan ⊢
      subst hscan
      rfl
    · rename_i hcolon
      exact absurd rfl (hcolon _)

/-- **The members of an object are read up to its closing brace.** -/
theorem scanMembers_of_spellsParts (hitem : Takes item value width) {text : List Char}
    {members : List (CodeText × Json)} (h : SpellsParts '\x7d' (SpellsMember value) text members)
    {fuel : Nat} (hwidth : text.length ≤ width) (hfuel : text.length ≤ fuel) (rest : CodeText) :
    scanMembers item fuel (CodeText.ofChars text ++ rest) = .ok (decodedMembers members, rest) := by
  induction h generalizing fuel with
  | last hpart hgap =>
    rename_i text gap member
    obtain ⟨name, v⟩ := member
    have hsplit : CodeText.ofChars (text ++ (gap ++ ['\x7d'])) ++ rest =
        CodeText.ofChars text ++ (CodeText.ofChars gap ++ .char '\x7d' :: rest) := by
      simp [CodeText.ofChars]
    simp only [List.length_append, List.length_singleton] at hwidth hfuel
    obtain ⟨fuel, rfl⟩ := Nat.exists_eq_succ_of_ne_zero (show fuel ≠ 0 by omega)
    rw [hsplit, scanMembers_of_spellsMember hitem hpart (by omega) fuel
      (endsNumber_gap hgap (endsNumber_char (c := '\x7d') rfl rest)),
      skipWhitespace_gap_char hgap (by decide)]
    rfl
  | more hpart hgap hgap' hparts ih =>
    rename_i text gap gap' behind member members
    obtain ⟨name, v⟩ := member
    have hsplit : CodeText.ofChars (text ++ (gap ++ ',' :: (gap' ++ behind))) ++ rest =
        CodeText.ofChars text ++ (CodeText.ofChars gap ++ .char ',' ::
          (CodeText.ofChars gap' ++ (CodeText.ofChars behind ++ rest))) := by
      simp [CodeText.ofChars]
    simp only [List.length_append, List.length_cons] at hwidth hfuel
    obtain ⟨fuel, rfl⟩ := Nat.exists_eq_succ_of_ne_zero (show fuel ≠ 0 by omega)
    rw [hsplit, scanMembers_of_spellsMember hitem hpart (by omega) fuel
      (endsNumber_gap hgap (endsNumber_char (c := ',') rfl _)),
      skipWhitespace_gap_char hgap (by decide)]
    split
    · rename_i hbrace
      cases hbrace
    · rename_i hcomma
      obtain ⟨-, rfl⟩ := List.cons.inj hcomma
      rw [skipWhitespace_parts exists_start_of_spellsMember hgap' hparts, ih (by omega) (by omega)]
      rfl
    · rename_i hcomma
      exact absurd rfl (hcomma _)

end Parts

section Containers

variable {width depth : Nat} (hitem : Takes (scanValue width depth) (Spells depth) width)
variable {gap text : List Char}

include hitem

/-- An array of values that are read is read. -/
theorem scanValue_array {items : List Json} (hgap : IsGap gap)
    (hitems : SpellsParts ']' (Spells depth) text items) (hlength : text.length ≤ width)
    (rest : CodeText) :
    scanValue width (depth + 1) (CodeText.ofChars ('[' :: (gap ++ text)) ++ rest) =
      .ok (.array (decodedItems items), rest) := by
  have hsplit : CodeText.ofChars ('[' :: (gap ++ text)) ++ rest =
      .char '[' :: (CodeText.ofChars gap ++ (CodeText.ofChars text ++ rest)) := by
    simp [CodeText.ofChars]
  have hscan := scanItems_of_spellsParts hitem hitems hlength hlength rest
  have hskip := skipWhitespace_parts hitem.start hgap hitems rest
  rw [hsplit]
  unfold scanValue
  rw [if_neg (by decide), if_pos rfl, hskip]
  dsimp only
  split
  · rename_i hbracket
    exact absurd hbracket (parts_ne_cons hitem.start hitems (by decide) rest _)
  · rw [hscan]
    rfl

/-- An object of values that are read is read. -/
theorem scanValue_object {members : List (CodeText × Json)} (hgap : IsGap gap)
    (hmembers : SpellsParts '\x7d' (SpellsMember (Spells depth)) text members)
    (hlength : text.length ≤ width) (rest : CodeText) :
    scanValue width (depth + 1) (CodeText.ofChars ('\x7b' :: (gap ++ text)) ++ rest) =
      .ok (.object (Named.putAll [] (decodedMembers members)), rest) := by
  have hsplit : CodeText.ofChars ('\x7b' :: (gap ++ text)) ++ rest =
      .char '\x7b' :: (CodeText.ofChars gap ++ (CodeText.ofChars text ++ rest)) := by
    simp [CodeText.ofChars]
  have hscan := scanMembers_of_spellsParts hitem hmembers hlength hlength rest
  have hskip := skipWhitespace_parts exists_start_of_spellsMember hgap hmembers rest
  rw [hsplit]
  unfold scanValue
  rw [if_neg (by decide), if_neg (by decide), if_pos rfl, hskip]
  dsimp only
  split
  · rename_i hbrace
    exact absurd hbrace (parts_ne_cons exists_start_of_spellsMember hmembers (by decide) rest _)
  · rw [hscan, ← Named.ofPairs_eq]
    rfl

end Containers

/-- **A spelled value is taken off the text in front of which it stands.** -/
theorem takes_scanValue (width depth : Nat) :
    Takes (scanValue width depth) (Spells depth) width := by
  refine ⟨exists_start_of_spells, ?_⟩
  -- what lies in a container is read by the reader that goes one level less deep
  induction depth with
  | zero =>
    intro text v h _ rest hrest
    rw [scanValue_of_spellsLeaf h width 0 hrest, decoded_of_spellsLeaf h]
  | succ depth ih =>
    have hitem : Takes (scanValue width depth) (Spells depth) width := ⟨exists_start_of_spells, ih⟩
    intro text v h hwidth rest hrest
    cases h with
    | leaf h => rw [scanValue_of_spellsLeaf h width _ hrest, decoded_of_spellsLeaf h]
    | emptyArray hgap =>
      rename_i gap
      have hsplit : CodeText.ofChars ('[' :: (gap ++ [']'])) ++ rest =
          .char '[' :: (CodeText.ofChars gap ++ .char ']' :: rest) := by
        simp [CodeText.ofChars]
      rw [hsplit]
      unfold scanValue
      rw [if_neg (by decide), if_pos rfl, skipWhitespace_gap_char hgap (by decide)]
      rfl
    | array hgap hitems =>
      simp only [List.length_cons, List.length_append] at hwidth
      rw [scanValue_array hitem hgap hitems (by omega), decoded]
    | emptyObject hgap =>
      rename_i gap
      have hsplit : CodeText.ofChars ('\x7b' :: (gap ++ ['\x7d'])) ++ rest =
          .char '\x7b' :: (CodeText.ofChars gap ++ .char '\x7d' :: rest) := by
        simp [CodeText.ofChars]
      rw [hsplit]
      unfold scanValue
      rw [if_neg (by decide), if_neg (by decide), if_pos rfl,
        skipWhitespace_gap_char hgap (by decide)]
      rfl
    | object hgap hmembers =>
      simp only [List.length_cons, List.length_append] at hwidth
      rw [scanValue_object hitem hgap hmembers (by omega), decoded]

/-! ### Whole texts -/

/-- **A spelled document is read as its value.** -/
theorem readUnmarked_of_spellsDocument {depth : Depth} {text : List Char} {v : Json}
    (h : SpellsDocument depth text v) :
    readUnmarked depth (CodeText.ofChars text) = .ok (decoded v) := by
  cases h with
  | value hgap hvalue hgap' =>
    rename_i gap gap' text
    obtain ⟨c, tail, rfl, hc⟩ := exists_start_of_spells hvalue
    have hmark : (CodeText.ofChars (gap ++ (c :: tail ++ gap'))).head? ≠ some (.char '\ufeff') := by
      cases gap with
      | nil =>
        rintro ⟨⟩
        exact absurd hc (by decide)
      | cons d gap =>
        rintro ⟨⟩
        exact absurd (hgap _ List.mem_cons_self) (by decide)
    have hskip : skipWhitespace (CodeText.ofChars (gap ++ (c :: tail ++ gap'))) =
        CodeText.ofChars (c :: tail) ++ CodeText.ofChars gap' := by
      rw [CodeText.ofChars, List.map_append, List.map_append]
      exact (skipWhitespace_gap hgap _).trans (skipWhitespace_start hc _)
    have hend : EndsNumber (CodeText.ofChars gap') := by
      have hgap := endsNumber_gap hgap' endsNumber_nil
      rwa [List.append_nil] at hgap
    have hrest : skipWhitespace (CodeText.ofChars gap') = [] := by
      have hgap := skipWhitespace_gap hgap' []
      rwa [List.append_nil] at hgap
    have hscan := (takes_scanValue (CodeText.ofChars (gap ++ (c :: tail ++ gap'))).length
      depth.levels).scan hvalue (by simp [CodeText.ofChars]; omega) hend
    unfold readUnmarked
    split
    · rename_i hfirst
      rw [hfirst] at hmark
      exact absurd rfl hmark
    · rw [read, scanDocument, hskip, hscan]
      dsimp only [bind, Except.bind]
      rw [hrest]
      rfl

end MetricIntake.Json
