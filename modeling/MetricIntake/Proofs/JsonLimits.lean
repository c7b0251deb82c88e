import MetricIntake.Proofs.JsonText
import Mathlib.Data.List.TakeDrop
import Mathlib.Data.List.TakeWhile

/-!
# The limits of the reader

A text is read without regard to how long its numbers are and how deep its values lie, up to two
limits.  Where the reader stops at one of them, the text shows it: `Stop.Shown`.  That is, the text
has more digits in a row than a whole number may have, or more opening brackets than values may lie
deep.  `Scans` is what every scanning function keeps to, and `shown_of_read` says it of whole texts.
Conversely, `readUnmarked_digits` and `read_brackets` are texts at which the reader does stop.
-/

namespace MetricIntake.Json

/-! ### What a text shows -/

/-- An opening bracket or brace. -/
def isOpening (p : CodePoint) : Bool := p = .char '[' || p = .char '\x7b'

/-- The text shows why the reader stops at a limit: there are more opening brackets in it than
values may lie deep, or as many digits in a row as the number has, which are too many. -/
def Stop.Shown (depth : Nat) (cs : CodeText) : Stop → Prop
  | problem _ _ => True
  | nesting _ => depth < cs.countP isOpening
  | longWhole n => Numeral.digitsLimit < n ∧ ∃ digits : List Char,
      CodeText.ofChars digits <:+: cs ∧ digits.length = n ∧ ∀ c ∈ digits, isDigit c = true

/-- What a scanning function comes to: it leaves an end of the text, or it stops for a reason that
the text shows. -/
def Scans {α : Type} (depth : Nat) (cs : CodeText) : Except Stop (α × CodeText) → Prop
  | .ok (_, rest) => rest <:+ cs
  | .error stop => stop.Shown depth cs

section Scans

variable {α β : Type} {depth : Nat} {cs cs' : CodeText}

theorem Stop.Shown.of_suffix {stop : Stop} (h : stop.Shown depth cs') (hs : cs' <:+ cs) :
    stop.Shown depth cs := by
  cases stop with
  | problem p rest => trivial
  | nesting c => exact Nat.lt_of_lt_of_le h (hs.sublist.countP_le)
  | longWhole n =>
    obtain ⟨hlimit, digits, hdigits, hrest⟩ := h
    exact ⟨hlimit, digits, hdigits.trans hs.isInfix, hrest⟩

theorem Scans.of_suffix {result : Except Stop (α × CodeText)} (h : Scans depth cs' result)
    (hs : cs' <:+ cs) : Scans depth cs result := by
  cases result with
  | ok found => exact List.IsSuffix.trans h hs
  | error stop => exact Stop.Shown.of_suffix h hs

/-- Scanning goes on with what was left. -/
theorem Scans.bind {first : Except Stop (α × CodeText)}
    {next : α × CodeText → Except Stop (β × CodeText)} (h : Scans depth cs first)
    (hnext : ∀ value rest, rest <:+ cs → Scans depth cs (next (value, rest))) :
    Scans depth cs (first >>= next) := by
  cases first with
  | ok found => exact hnext found.1 found.2 h
  | error stop => exact h

theorem skipWhitespace_suffix (cs : CodeText) : skipWhitespace cs <:+ cs :=
  List.dropWhile_suffix _

end Scans

/-! ### Strings -/

section Strings

variable {depth : Nat}

theorem suffix_of_scanUnit? {cs rest : CodeText} {unit : Nat}
    (h : scanUnit? cs = some (unit, rest)) : rest <:+ cs := by
  match cs with
  | a :: b :: c :: d :: x :: tail =>
    obtain ⟨_, -, h⟩ := Option.map_eq_some_iff.1 h
    obtain ⟨-, rfl⟩ := Prod.mk.inj h
    exact ⟨[a, b, c, d], rfl⟩
  | [] | [_] | [_, _] | [_, _, _] | [_, _, _, _] => cases h

theorem suffix_of_scanLowHalf? {cs rest : CodeText} {unit : Nat}
    (h : scanLowHalf? cs = some (unit, rest)) : rest <:+ cs := by
  unfold scanLowHalf? at h
  split at h
  · rename_i tail
    exact (suffix_of_scanUnit? (Option.eq_some_of_filter_eq_some h)).trans ⟨[_, _], rfl⟩
  · cases h

theorem scans_scanUnicode (cs : CodeText) : Scans depth cs (scanUnicode cs) := by
  unfold scanUnicode
  split
  · trivial
  · rename_i unit rest hunit
    have hrest := suffix_of_scanUnit? hunit
    split
    · split
      · rename_i low rest' hlow
        exact (suffix_of_scanLowHalf? hlow).trans hrest
      · exact hrest
    · exact hrest

theorem scans_scanEscape (opening cs : CodeText) : Scans depth cs (scanEscape opening cs) := by
  unfold scanEscape
  split
  · trivial
  · rename_i e rest
    split
    · exact (scans_scanUnicode rest).of_suffix (List.suffix_cons e rest)
    · split
      · exact List.suffix_cons e rest
      · trivial

theorem scans_scanString (opening acc cs : CodeText) :
    Scans depth cs (scanString opening acc cs) := by
  fun_induction scanString opening acc cs with
  | case1 acc => trivial
  | case2 acc rest => exact List.suffix_cons _ rest
  | case3 acc rest stop h =>
    have hescape : Scans depth rest (scanEscape opening rest) := scans_scanEscape opening rest
    rw [h] at hescape
    exact Stop.Shown.of_suffix hescape (List.suffix_cons _ rest)
  | case4 acc rest x behind h _ _ ih =>
    have hescape : Scans depth rest (scanEscape opening rest) := scans_scanEscape opening rest
    rw [h] at hescape
    exact ih.of_suffix (List.IsSuffix.trans hescape (List.suffix_cons _ rest))
  | case5 acc c rest => trivial
  | case6 acc c rest _ _ _ ih => exact ih.of_suffix (List.suffix_cons c rest)

end Strings

/-! ### Numbers -/

section Numbers

theorem suffix_of_scanSign (cs : List Char) : (Numeral.scanSign cs).2 <:+ cs := by
  unfold Numeral.scanSign
  split
  · exact List.suffix_cons _ _
  · exact List.suffix_cons _ _
  · exact List.suffix_rfl

theorem suffix_of_scanExponent {cs rest : List Char} {e : Int}
    (h : Numeral.scanExponent cs = some (e, rest)) : rest <:+ cs := by
  unfold Numeral.scanExponent at h
  split at h
  · rename_i c tail
    split at h
    · dsimp only at h
      split at h
      · cases h
      · obtain ⟨-, rfl⟩ := Prod.mk.inj (Option.some.inj h)
        exact ((List.dropWhile_suffix _).trans (suffix_of_scanSign tail)).trans
          (List.suffix_cons c tail)
    · cases h
  · cases h

theorem suffix_of_scanDecimals (cs : List Char) : (scanDecimals cs).2 <:+ cs := by
  unfold scanDecimals
  split
  · rename_i d ds rest h
    unfold Numeral.scanFraction at h
    split at h
    · obtain ⟨-, rfl⟩ := Prod.mk.inj (Option.some.inj h)
      exact (List.dropWhile_suffix _).trans (List.suffix_cons _ _)
    · cases h
  · exact List.suffix_rfl

/-- The whole part of a number is made of digits in front of the rest. -/
theorem scanWhole_eq_some {cs digits rest : List Char} (h : scanWhole cs = some (digits, rest)) :
    cs = digits ++ rest ∧ ∀ c ∈ digits, isDigit c = true := by
  unfold scanWhole at h
  split at h
  · cases h
  · rename_i c tail
    split at h
    · rename_i hzero
      obtain ⟨rfl, rfl⟩ := Prod.mk.inj (Option.some.inj h)
      exact ⟨by rw [hzero]; rfl, List.forall_mem_singleton.2 rfl⟩
    · split at h
      · rename_i hdigit
        obtain ⟨rfl, rfl⟩ := Prod.mk.inj (Option.some.inj h)
        refine ⟨by rw [List.cons_append, List.takeWhile_append_dropWhile], ?_⟩
        exact List.forall_mem_cons.2 ⟨hdigit, List.all_eq_true.1 List.all_takeWhile⟩
      · cases h

/-- A number starts with digits, behind a sign or at once.  They are too many for a whole number, or
there is a value and an end of the text is left. -/
theorem scanNumeral?_cases {cs : List Char} {result : Except Stop (Json × List Char)}
    (h : scanNumeral? cs = some result) :
    ∃ digits, digits <:+: cs ∧ (∀ c ∈ digits, isDigit c = true) ∧
      ((Numeral.digitsLimit < digits.length ∧ result = .error (.longWhole digits.length)) ∨
        ∃ value rest, result = .ok (value, rest) ∧ rest <:+ cs) := by
  unfold scanNumeral? at h
  split at h
  rename_i negative body hsign
  have hbody : body <:+ cs := by
    split at hsign
    · obtain ⟨-, rfl⟩ := Prod.mk.inj hsign
      exact List.suffix_cons _ _
    · obtain ⟨-, rfl⟩ := Prod.mk.inj hsign
      exact List.suffix_rfl
  obtain ⟨⟨digits, rest⟩, hwhole, hresult⟩ := Option.map_eq_some_iff.1 h
  obtain ⟨hsplit, hdigits⟩ := scanWhole_eq_some hwhole
  have hprefix : digits <+: body := ⟨rest, hsplit.symm⟩
  have hrest : rest <:+ body := ⟨digits, hsplit.symm⟩
  have hdecimals := ((suffix_of_scanDecimals rest).trans hrest).trans hbody
  refine ⟨digits, hprefix.isInfix.trans hbody.isInfix, hdigits, ?_⟩
  dsimp only at hresult
  split at hresult
  · split at hresult
    · rename_i hlimit
      exact .inl ⟨hlimit, hresult.symm⟩
    · exact .inr ⟨_, _, hresult.symm, hdecimals⟩
  · refine .inr ⟨_, _, hresult.symm, ?_⟩
    cases hpower : Numeral.scanExponent (scanDecimals rest).2 with
    | none => exact hdecimals
    | some power => exact (suffix_of_scanExponent hpower).trans hdecimals

theorem scans_scanNumber {depth : Nat} (cs : CodeText) : Scans depth cs (scanNumber cs) := by
  unfold scanNumber
  rw [List.span_eq_takeWhile_dropWhile]
  dsimp only
  generalize hfront : cs.takeWhile (CodePoint.isIn isInNumber) = front
  generalize hbehind : cs.dropWhile (CodePoint.isIn isInNumber) = behind
  have hsplit : front ++ behind = cs := by
    rw [← hfront, ← hbehind, List.takeWhile_append_dropWhile]
  have hchars : CodeText.ofChars (front.filterMap CodePoint.char?) = front := by
    refine CodeText.ofChars_filterMap_char? fun p hp => ?_
    rw [← hfront] at hp
    have hin := List.all_eq_true.1 List.all_takeWhile p hp
    cases p with
    | char c => rfl
    | half offset => cases hin
  cases hnumeral : scanNumeral? (front.filterMap CodePoint.char?) with
  | none => trivial
  | some result =>
    obtain ⟨digits, ⟨before, after, hinfix⟩, hdigits, hcases⟩ := scanNumeral?_cases hnumeral
    obtain ⟨hlimit, rfl⟩ | ⟨value, rest, rfl, before, hbefore⟩ := hcases
    · refine ⟨hlimit, digits, ⟨CodeText.ofChars before, CodeText.ofChars after ++ behind, ?_⟩, rfl,
        hdigits⟩
      rw [← List.append_assoc, ← hsplit, ← hchars, ← hinfix]
      simp [CodeText.ofChars]
    · refine ⟨CodeText.ofChars before, ?_⟩
      rw [← List.append_assoc, ← hsplit, ← hchars, ← hbefore]
      simp [CodeText.ofChars]

end Numbers

/-! ### Values -/

section Values

variable {depth : Nat} {item : CodeText → Except Stop (Json × CodeText)}

theorem suffix_of_scanWord? {cs rest : CodeText} {value : Json}
    (h : scanWord? cs = some (value, rest)) : rest <:+ cs := by
  obtain ⟨⟨word, value'⟩, -, hfound⟩ := Option.map_eq_some_iff.1 h
  obtain ⟨-, rfl⟩ := Prod.mk.inj hfound
  exact List.drop_suffix _ _

theorem scans_scanItems (hitem : ∀ cs, Scans depth cs (item cs)) (fuel : Nat) (cs : CodeText) :
    Scans depth cs (scanItems item fuel cs) := by
  induction fuel generalizing cs with
  | zero => trivial
  | succ fuel ih =>
    rw [scanItems]
    refine (hitem cs).bind fun value rest hrest => ?_
    have hskip := (skipWhitespace_suffix rest).trans hrest
    dsimp only
    split
    · rename_i behind h
      rw [h] at hskip
      exact (List.suffix_cons _ behind).trans hskip
    · rename_i behind h
      rw [h] at hskip
      have hbehind := ((skipWhitespace_suffix behind).trans (List.suffix_cons _ behind)).trans hskip
      refine ((ih _).of_suffix hbehind).bind fun values rest' hrest' => ?_
      exact hrest'
    · trivial

theorem scans_scanMembers (hitem : ∀ cs, Scans depth cs (item cs)) (fuel : Nat) (cs : CodeText) :
    Scans depth cs (scanMembers item fuel cs) := by
  induction fuel generalizing cs with
  | zero => trivial
  | succ fuel ih =>
    unfold scanMembers
    split
    · rename_i behind
      refine ((scans_scanString _ [] behind).of_suffix (List.suffix_cons _ behind)).bind
        fun name rest hrest => ?_
      have hskip := (skipWhitespace_suffix rest).trans hrest
      dsimp only
      split
      · rename_i tail h
        rw [h] at hskip
        have htail := ((skipWhitespace_suffix tail).trans (List.suffix_cons _ tail)).trans hskip
        refine ((hitem _).of_suffix htail).bind fun value rest hrest => ?_
        have hskip := (skipWhitespace_suffix rest).trans hrest
        dsimp only
        split
        · rename_i more h
          rw [h] at hskip
          exact (List.suffix_cons _ more).trans hskip
        · rename_i more h
          rw [h] at hskip
          have hmore := ((skipWhitespace_suffix more).trans (List.suffix_cons _ more)).trans hskip
          refine ((ih _).of_suffix hmore).bind fun pairs rest' hrest' => ?_
          exact hrest'
        · trivial
      · trivial
    · trivial

theorem shown_nesting_zero {c : CodePoint} {rest : CodeText} (hc : isOpening c = true)
    (container : Container) : (Stop.nesting container).Shown 0 (c :: rest) := by
  show 0 < (c :: rest).countP isOpening
  rw [List.countP_cons_of_pos hc]
  exact Nat.succ_pos _

/-- What a text shows one less deep it shows behind an opening bracket. -/
theorem Scans.behind_opening {α : Type} {c : CodePoint} {rest : CodeText}
    {result : Except Stop (α × CodeText)} (hc : isOpening c = true) (h : Scans depth rest result) :
    Scans (depth + 1) (c :: rest) result := by
  cases result with
  | ok found => exact List.IsSuffix.trans h (List.suffix_cons c rest)
  | error stop =>
    cases stop with
    | problem p place => trivial
    | nesting container =>
      show depth + 1 < (c :: rest).countP isOpening
      rw [List.countP_cons_of_pos hc]
      exact Nat.succ_lt_succ h
    | longWhole n =>
      exact @Stop.Shown.of_suffix depth _ _ (.longWhole n) h (List.suffix_cons c rest)

/-- **A value** leaves an end of the text, or the text shows why the reader stops. -/
theorem scans_scanValue (width depth : Nat) (cs : CodeText) :
    Scans depth cs (scanValue width depth cs) := by
  induction depth using Nat.strongRecOn generalizing cs with
  | ind depth ih =>
    unfold scanValue
    split
    · trivial
    · rename_i c rest
      have htail : rest <:+ c :: rest := List.suffix_cons c rest
      split
      · refine ((scans_scanString _ [] rest).of_suffix htail).bind fun value rest' hrest' => ?_
        exact hrest'
      · split
        · rename_i hbracket
          have hopening : isOpening c = true := by rw [hbracket]; rfl
          cases depth with
          | zero => exact shown_nesting_zero hopening .array
          | succ depth =>
            refine Scans.behind_opening hopening ?_
            have hskip := skipWhitespace_suffix rest
            dsimp only
            split
            · rename_i behind h
              rw [h] at hskip
              exact (List.suffix_cons _ behind).trans hskip
            · refine ((scans_scanItems (ih depth (Nat.lt_succ_self _)) width _).of_suffix
                hskip).bind fun items rest' hrest' => ?_
              exact hrest'
        · split
          · rename_i hbrace
            have hopening : isOpening c = true := by rw [hbrace]; rfl
            cases depth with
            | zero => exact shown_nesting_zero hopening .object
            | succ depth =>
              refine Scans.behind_opening hopening ?_
              have hskip := skipWhitespace_suffix rest
              dsimp only
              split
              · rename_i behind h
                rw [h] at hskip
                exact (List.suffix_cons _ behind).trans hskip
              · refine ((scans_scanMembers (ih depth (Nat.lt_succ_self _)) width _).of_suffix
                  hskip).bind fun pairs rest' hrest' => ?_
                exact hrest'
          · split
            · rename_i found hfound
              exact suffix_of_scanWord? hfound
            · exact scans_scanNumber _

end Values

/-! ### Whole texts -/

/-- The text shows why it cannot be read, if this is for one of the limits. -/
def ReadError.Shown (depth : Depth) (text : CodeText) : ReadError → Prop
  | problem _ _ => True
  | nesting c => Stop.Shown depth.levels text (.nesting c)
  | longWhole n => Stop.Shown depth.levels text (.longWhole n)

/-- **Whole texts show it** if the reader stops at one of its limits. -/
theorem shown_of_read {depth : Depth} {text : CodeText} {e : ReadError}
    (h : read depth text = .error e) : e.Shown depth text := by
  have hvalue := (scans_scanValue text.length depth.levels (skipWhitespace text)).of_suffix
    (skipWhitespace_suffix text)
  unfold read scanDocument at h
  generalize scanValue text.length depth.levels (skipWhitespace text) = result at h hvalue
  cases result with
  | ok found =>
    obtain ⟨value, rest⟩ := found
    dsimp only [bind, Except.bind] at h
    split at h
    · cases h
    · cases h
      trivial
  | error stop =>
    obtain rfl := Except.error.inj h
    cases stop with
    | problem p rest => trivial
    | nesting c => exact hvalue
    | longWhole n => exact hvalue

/-- So do texts that a byte order mark may not stand in front of. -/
theorem shown_of_readUnmarked {depth : Depth} {text : CodeText} {e : ReadError}
    (h : readUnmarked depth text = .error e) : e.Shown depth text := by
  unfold readUnmarked at h
  split at h
  · obtain rfl := Except.error.inj h
    trivial
  · exact shown_of_read h

/-! ### Texts at which the reader stops -/

section Stops

variable {depth : Depth}

/-- Digits are a whole number if the first one is no zero. -/
theorem scanWhole_digits {digits : List Char} (hdigits : ∀ c ∈ digits, isDigit c = true)
    (hne : digits ≠ []) (hfirst : digits.head? ≠ some '0') :
    scanWhole digits = some (digits, []) := by
  cases digits with
  | nil => exact absurd rfl hne
  | cons c rest =>
    obtain ⟨hc, hrest⟩ := List.forall_mem_cons.1 hdigits
    rw [scanWhole, if_neg fun h => hfirst (congrArg some h), if_pos hc,
      List.takeWhile_eq_self_iff.2 hrest, List.dropWhile_eq_nil_iff.2 hrest]

theorem scanNumeral?_digits {digits : List Char} (hdigits : ∀ c ∈ digits, isDigit c = true)
    (hfirst : digits.head? ≠ some '0') (hlimit : Numeral.digitsLimit < digits.length) :
    scanNumeral? digits = some (.error (.longWhole digits.length)) := by
  have hne : digits ≠ [] := List.ne_nil_of_length_pos (Nat.zero_lt_of_lt hlimit)
  have hwhole := scanWhole_digits hdigits hne hfirst
  unfold scanNumeral?
  split
  rename_i negative body hsign
  have hbody : body = digits := by
    split at hsign
    · exact absurd (hdigits '-' List.mem_cons_self) (by decide)
    · exact (Prod.mk.inj hsign).2.symm
  rw [hbody, hwhole]
  exact congrArg some (if_pos hlimit)

/-- Digits that are too many, the first of which is no zero. -/
theorem scanNumber_digits {digits : List Char} (hdigits : ∀ c ∈ digits, isDigit c = true)
    (hfirst : digits.head? ≠ some '0') (hlimit : Numeral.digitsLimit < digits.length) :
    scanNumber (CodeText.ofChars digits) = .error (.longWhole digits.length) := by
  have hin : ∀ c ∈ CodeText.ofChars digits, CodePoint.isIn isInNumber c = true := by
    intro c hc
    obtain ⟨d, hd, rfl⟩ := List.mem_map.1 hc
    simp [CodePoint.isIn, isInNumber, hdigits d hd]
  unfold scanNumber
  rw [List.span_eq_takeWhile_dropWhile, List.takeWhile_eq_self_iff.2 hin]
  dsimp only
  rw [CodeText.filterMap_char?_ofChars, scanNumeral?_digits hdigits hfirst hlimit]

/-- No word has a digit in front, or behind one other character. -/
theorem scanWord?_digit {front : CodeText} (hfront : front.length ≤ 1) {c : Char}
    (hc : isDigit c = true) (rest : CodeText) : scanWord? (front ++ .char c :: rest) = none := by
  have hwords : ∀ word ∈ words.map Prod.fst,
      1 < word.length ∧ ∀ d ∈ word, CodePoint.isIn isDigit d = false := by
    decide +kernel
  rw [scanWord?, Option.map_eq_none_iff, List.find?_eq_none]
  rintro ⟨word, value⟩ hword hprefix
  obtain ⟨hlength, hnone⟩ := hwords word (List.mem_map_of_mem hword)
  obtain ⟨tail, htail⟩ := List.isPrefixOf_iff_prefix.1 hprefix
  -- the digit is one of the first two characters, and a word has as many
  have hmem : .char c ∈ word := by
    have hget : (word ++ tail)[front.length]? = some (.char c) := by
      rw [htail]
      simp
    rw [List.getElem?_append_left (by omega)] at hget
    exact List.mem_of_getElem? hget
  exact absurd (hnone _ hmem) (by rw [CodePoint.isIn, hc]; decide)

/-- Where a digit stands, behind a sign or at once, a number is read. -/
theorem scanValue_digit (negative : Bool) {c : Char} (hc : isDigit c = true) (width depth : Nat)
    (rest : CodeText) :
    scanValue width depth (CodeText.ofChars (signText negative) ++ .char c :: rest) =
      scanNumber (CodeText.ofChars (signText negative) ++ .char c :: rest) := by
  have hne (d : Char) (hd : isDigit d = false) : CodePoint.char c ≠ .char d := by
    rintro ⟨⟩
    cases hc.symm.trans hd
  have hsign : (CodeText.ofChars (signText negative)).length ≤ 1 := by cases negative <;> decide
  have hword := scanWord?_digit hsign hc rest
  cases negative
  · have hstart : CodeText.ofChars (signText false) ++ .char c :: rest = .char c :: rest := rfl
    rw [hstart] at hword ⊢
    unfold scanValue
    rw [if_neg (hne _ (by decide)), if_neg (hne _ (by decide)), if_neg (hne _ (by decide)), hword]
  · have hstart : CodeText.ofChars (signText true) ++ .char c :: rest =
        .char '-' :: .char c :: rest := rfl
    rw [hstart] at hword ⊢
    unfold scanValue
    rw [if_neg (by decide), if_neg (by decide), if_neg (by decide), hword]

/-- A value in front of which nothing stands is the first thing that is read. -/
theorem read_error {text : CodeText} {e : Stop} (hskip : skipWhitespace text = text)
    (h : scanValue text.length depth.levels text = .error e) :
    read depth text = .error (e.locate text) := by
  rw [read, scanDocument, hskip, h]
  rfl

theorem readUnmarked_error {text : CodeText} {e : Stop} (hskip : skipWhitespace text = text)
    (hmark : text.head? ≠ some (.char '\ufeff'))
    (h : scanValue text.length depth.levels text = .error e) :
    readUnmarked depth text = .error (e.locate text) := by
  unfold readUnmarked
  split
  · exact absurd rfl hmark
  · exact read_error hskip h

/-- **Too long a number**: nothing but digits, the first of which is no zero. -/
theorem readUnmarked_digits {digits : List Char} (hdigits : ∀ c ∈ digits, isDigit c = true)
    (hfirst : digits.head? ≠ some '0') (hlimit : Numeral.digitsLimit < digits.length) :
    readUnmarked depth (CodeText.ofChars digits) = .error (.longWhole digits.length) := by
  have hnumber := scanNumber_digits hdigits hfirst hlimit
  cases digits with
  | nil => cases hlimit
  | cons c rest =>
    obtain ⟨hc, -⟩ := List.forall_mem_cons.1 hdigits
    refine readUnmarked_error (e := .longWhole (c :: rest).length) (skipWhitespace_char ?_ _) ?_ ?_
    · cases hspace : isWhitespace c with
      | false => rfl
      | true =>
        simp only [isWhitespace, Bool.or_eq_true, decide_eq_true_eq] at hspace
        obtain ((rfl | rfl) | rfl) | rfl := hspace <;> cases hc
    · rintro ⟨⟩
      cases hc
    · exact (scanValue_digit false hc _ _ _).trans hnumber

/-- Brackets one more than values may lie deep. -/
theorem scanValue_brackets {width : Nat} (hwidth : 0 < width) (depth : Nat) (tail : CodeText) :
    scanValue width depth (List.replicate (depth + 1) (.char '[') ++ tail) =
      .error (.nesting .array) := by
  obtain ⟨width, rfl⟩ := Nat.exists_eq_succ_of_ne_zero hwidth.ne'
  induction depth with
  | zero => rfl
  | succ depth ih =>
    have hskip : skipWhitespace (List.replicate (depth + 1) (.char '[') ++ tail) =
        List.replicate (depth + 1) (.char '[') ++ tail := by
      rw [List.replicate_succ, List.cons_append, skipWhitespace_char (by decide)]
    have hitems : scanItems (scanValue (width + 1) depth) (width + 1)
        (List.replicate (depth + 1) (.char '[') ++ tail) = .error (.nesting .array) := by
      rw [scanItems, ih]
      rfl
    rw [List.replicate_succ, List.cons_append]
    unfold scanValue
    rw [if_neg (by decide), if_pos rfl]
    dsimp only
    rw [hskip]
    split
    · rename_i hclosing
      cases hclosing
    · rw [hitems]
      rfl

/-- **Too deep a value**: more brackets than values may lie deep, and anything behind them. -/
theorem read_brackets (depth : Depth) (tail : CodeText) :
    read depth (List.replicate (depth.levels + 1) (.char '[') ++ tail) =
      .error (.nesting .array) := by
  refine read_error (e := .nesting .array) ?_ (scanValue_brackets ?_ _ _)
  · rw [List.replicate_succ, List.cons_append, skipWhitespace_char (by decide)]
  · rw [List.length_append, List.length_replicate]
    omega

theorem readUnmarked_brackets (depth : Depth) (tail : CodeText) :
    readUnmarked depth (List.replicate (depth.levels + 1) (.char '[') ++ tail) =
      .error (.nesting .array) := by
  have hread := read_brackets depth tail
  rw [List.replicate_succ, List.cons_append] at hread ⊢
  exact hread

end Stops

end MetricIntake.Json
