import MetricIntake.Json.Reader
import MetricIntake.Json.Writer

/-!
# Written strings are read back

`Json.render` writes a text between quotes and `Json.scanString` reads it back, escapes and all
(`scanString_render`), as long as it has no halves of characters.  So an object whose members are
texts is read back from what is written of it: `read_render_texts`.
-/

namespace MetricIntake.Json

/-! ### Characters -/

/-- The digits of a control character. -/
theorem hexPadded_control : ∀ n < 0x20,
    Text.hexPadded 4 n = ['0', '0', Nat.digitChar (n / 16), Nat.digitChar (n % 16)] := by
  decide

theorem hexUnit?_control : ∀ n < 0x20,
    hexUnit? (.char '0') (.char '0') (.char (Nat.digitChar (n / 16)))
      (.char (Nat.digitChar (n % 16))) = some n := by
  decide

/-- A control character is read back from its escape by number. -/
theorem scanUnicode_control {n : Nat} (h : n < 0x20) (x : CodePoint) (rest : CodeText) :
    scanUnicode (CodeText.ofChars (Text.hexPadded 4 n) ++ x :: rest) =
      .ok (.char (Char.ofNat n), x :: rest) := by
  have hscan : scanUnit? (CodeText.ofChars (Text.hexPadded 4 n) ++ x :: rest) =
      some (n, x :: rest) := by
    rw [hexPadded_control n h]
    simp [CodeText.ofChars, scanUnit?, hexUnit?_control n h]
  have hhigh : isHighSurrogate n = false := by
    simp [isHighSurrogate]
    omega
  have hpoint : CodePoint.ofNat n = .char (Char.ofNat n) := by
    unfold CodePoint.ofNat CodePoint.firstHalf
    rw [dif_neg (by omega)]
  rw [scanUnicode, hscan]
  simp [hhigh, hpoint]

/-- An escape is one step of the reader. -/
theorem scanString_escape {opening acc cs rest : CodeText} {x : CodePoint}
    (h : scanEscape opening cs = .ok (x, rest)) :
    scanString opening acc (.char '\\' :: cs) = scanString opening (x :: acc) rest := by
  rw [scanString, if_neg (by decide), if_pos rfl]
  split
  · rename_i hstop
    rw [h] at hstop
    cases hstop
  · rename_i hok
    rw [h] at hok
    cases hok
    rfl

/-- A character has an escape of one letter, or it is another control and has one by number, or it
stands for itself. -/
theorem renderChar_cases (c : Char) :
    (∃ e, renderChar c = ['\\', e] ∧ e ≠ 'u' ∧ shortEscape? e = some c) ∨
      (c.toNat < 0x20 ∧ renderChar c = '\\' :: 'u' :: Text.hexPadded 4 c.toNat) ∨
      (c ≠ '"' ∧ c ≠ '\\' ∧ 0x20 ≤ c.toNat ∧ renderChar c = [c]) := by
  by_cases hshort : c ∈ ['"', '\\', '\x08', '\x0c', '\n', '\r', '\t']
  · left
    simp only [List.mem_cons, List.not_mem_nil, or_false] at hshort
    rcases hshort with rfl | rfl | rfl | rfl | rfl | rfl | rfl <;>
      exact ⟨_, rfl, by decide, rfl⟩
  · right
    simp only [List.mem_cons, List.not_mem_nil, or_false, not_or] at hshort
    obtain ⟨hquote, hback, hb, hf, hn, hr, ht⟩ := hshort
    by_cases hcontrol : c.toNat < 0x20
    · left
      simp [renderChar, hquote, hback, hb, hf, hn, hr, ht, hcontrol]
    · right
      refine ⟨hquote, hback, Nat.not_lt.1 hcontrol, ?_⟩
      simp [renderChar, hquote, hback, hb, hf, hn, hr, ht, hcontrol]

/-- What is written of a character is one step of the reader. -/
theorem scanString_renderChar (opening acc : CodeText) (c : Char) (x : CodePoint)
    (rest : CodeText) :
    scanString opening acc (CodeText.ofChars (renderChar c) ++ x :: rest) =
      scanString opening (.char c :: acc) (x :: rest) := by
  obtain ⟨e, hrender, hu, hshort⟩ | ⟨hcontrol, hrender⟩ | ⟨hquote, hback, hlow, hrender⟩ :=
    renderChar_cases c
  · rw [hrender]
    refine scanString_escape ?_
    show scanEscape opening (.char e :: x :: rest) = _
    rw [scanEscape, if_neg (by simpa using hu)]
    simp [CodePoint.char?, hshort]
  · rw [hrender]
    refine scanString_escape ?_
    show scanEscape opening (.char 'u' :: (CodeText.ofChars (Text.hexPadded 4 c.toNat) ++
      x :: rest)) = _
    rw [scanEscape, if_pos rfl, scanUnicode_control hcontrol, Char.ofNat_toNat]
  · rw [hrender]
    have hvalue : ¬ (CodePoint.char c).value ≤ 0x1F := by
      show ¬ c.toNat ≤ 0x1F
      omega
    show scanString opening acc (.char c :: x :: rest) = _
    rw [scanString, if_neg (by simpa using hquote), if_neg (by simpa using hback), if_neg hvalue]

/-! ### Strings -/

/-- **A string is read back up to its closing quote.** -/
theorem scanString_render (opening acc : CodeText) (cs : List Char) (rest : CodeText) :
    scanString opening acc
        (CodeText.ofChars ((CodeText.ofChars cs).flatMap renderPoint) ++ .char '"' :: rest) =
      .ok (acc.reverse ++ CodeText.ofChars cs, rest) := by
  induction cs generalizing acc with
  | nil =>
    show scanString opening acc (.char '"' :: rest) = _
    rw [scanString, if_pos rfl]
    simp [CodeText.ofChars]
  | cons c cs ih =>
    -- whatever follows, there is a quote at its end
    obtain ⟨x, more, hmore⟩ : ∃ x more,
        CodeText.ofChars ((CodeText.ofChars cs).flatMap renderPoint) ++ .char '"' :: rest =
          x :: more := by
      cases CodeText.ofChars ((CodeText.ofChars cs).flatMap renderPoint) with
      | nil => exact ⟨_, _, rfl⟩
      | cons x more => exact ⟨_, _, rfl⟩
    have hsplit : CodeText.ofChars ((CodeText.ofChars (c :: cs)).flatMap renderPoint) ++
        .char '"' :: rest = CodeText.ofChars (renderChar c) ++ x :: more := by
      rw [← hmore]
      simp [CodeText.ofChars, renderPoint]
    rw [hsplit, scanString_renderChar, ← hmore, ih]
    simp [CodeText.ofChars]

/-- A text between quotes. -/
def inQuotes (cs : List Char) : CodeText := CodeText.ofChars (renderString (CodeText.ofChars cs))

theorem inQuotes_append (cs : List Char) (rest : CodeText) :
    inQuotes cs ++ rest =
      .char '"' :: (CodeText.ofChars ((CodeText.ofChars cs).flatMap renderPoint) ++
        .char '"' :: rest) := by
  simp [inQuotes, renderString, CodeText.ofChars]

theorem skipWhitespace_char {c : Char} (h : isWhitespace c = false) (rest : CodeText) :
    skipWhitespace (.char c :: rest) = .char c :: rest := by
  rw [skipWhitespace, List.dropWhile_cons_of_neg]
  simp [CodePoint.isIn, h]

theorem skipWhitespace_inQuotes (cs : List Char) (rest : CodeText) :
    skipWhitespace (inQuotes cs ++ rest) = inQuotes cs ++ rest := by
  rw [inQuotes_append, skipWhitespace_char (by decide)]

/-- A text between quotes is a value. -/
theorem scanValue_inQuotes (width depth : Nat) (cs : List Char) (rest : CodeText) :
    scanValue width depth (inQuotes cs ++ rest) = .ok (.text (CodeText.ofChars cs), rest) := by
  rw [inQuotes_append]
  unfold scanValue
  rw [if_pos rfl, scanString_render]
  rfl

/-! ### Objects of texts -/

/-- Members that are texts. -/
def textMembers (members : List (List Char × List Char)) : List (CodeText × Json) :=
  members.map fun (name, value) => (CodeText.ofChars name, .text (CodeText.ofChars value))

/-- Further members that are texts, and the end of the object. -/
def writtenMembers (members : List (List Char × List Char)) : CodeText :=
  CodeText.ofChars (renderMembers (textMembers members))

theorem writtenMembers_cons (name value : List Char) (members : List (List Char × List Char)) :
    writtenMembers ((name, value) :: members) =
      .char ',' :: (inQuotes name ++ .char ':' :: (inQuotes value ++ writtenMembers members)) := by
  simp [writtenMembers, inQuotes, textMembers, renderMembers, render, CodeText.ofChars]

/-- As many members as an object has, it has characters. -/
theorem length_lt_writtenMembers (members : List (List Char × List Char)) :
    members.length < (writtenMembers members).length := by
  induction members with
  | nil => decide
  | cons member members ih =>
    obtain ⟨name, value⟩ := member
    simp only [writtenMembers_cons, List.length_cons, List.length_append]
    omega

/-- A member that is a text is read back; what follows it is up to the next character. -/
theorem scanMembers_member (width depth fuel : Nat) (name value : List Char) (tail : CodeText) :
    scanMembers (scanValue width depth) (fuel + 1)
        (inQuotes name ++ .char ':' :: (inQuotes value ++ tail)) =
      match skipWhitespace tail with
      | .char '\x7d' :: rest =>
        return ([(CodeText.ofChars name, .text (CodeText.ofChars value))], rest)
      | .char ',' :: rest => do
        let (pairs, rest) ← scanMembers (scanValue width depth) fuel (skipWhitespace rest)
        return ((CodeText.ofChars name, .text (CodeText.ofChars value)) :: pairs, rest)
      | rest => throw (.problem .expectingComma rest) := by
  rw [inQuotes_append, scanMembers, scanString_render]
  dsimp only [bind, Except.bind, List.reverse_nil, List.nil_append]
  rw [skipWhitespace_char (by decide)]
  split
  · rename_i hcolon
    obtain ⟨-, rfl⟩ := List.cons.inj hcolon
    have hvalue : scanValue width depth (skipWhitespace (inQuotes value ++ tail)) =
        .ok (.text (CodeText.ofChars value), tail) := by
      rw [skipWhitespace_inQuotes, scanValue_inQuotes]
    exact hvalue ▸ rfl
  · rename_i hcolon
    exact absurd rfl (hcolon _)

/-- The members of an object of texts are read back up to its closing brace. -/
theorem scanMembers_written (width depth fuel : Nat) (name value : List Char)
    (members : List (List Char × List Char)) (hfuel : members.length < fuel) :
    scanMembers (scanValue width depth) fuel
        (inQuotes name ++ .char ':' :: (inQuotes value ++ writtenMembers members)) =
      .ok (textMembers ((name, value) :: members), []) := by
  induction members generalizing fuel name value with
  | nil =>
    obtain ⟨fuel, rfl⟩ : ∃ n, fuel = n + 1 := ⟨fuel - 1, by simp at hfuel; omega⟩
    rw [scanMembers_member]
    rfl
  | cons member members ih =>
    obtain ⟨name', value'⟩ := member
    obtain ⟨fuel, rfl⟩ : ∃ n, fuel = n + 1 := ⟨fuel - 1, by simp at hfuel; omega⟩
    have hfuel' : members.length < fuel := by simpa using hfuel
    rw [scanMembers_member, writtenMembers_cons, skipWhitespace_char (by decide)]
    split
    · rename_i hbrace
      cases hbrace
    · rename_i hcomma
      obtain ⟨-, rfl⟩ := List.cons.inj hcomma
      rw [skipWhitespace_inQuotes, ih fuel name' value' hfuel']
      rfl
    · rename_i hcomma
      exact absurd rfl (hcomma _)

/-- **An object of texts is read back from what is written of it.** -/
theorem read_render_texts (depth : Depth) (name value : List Char)
    (members : List (List Char × List Char)) :
    read depth (CodeText.ofChars (render (.object (textMembers ((name, value) :: members))))) =
      .ok (.object (Named.ofPairs (textMembers ((name, value) :: members)))) := by
  have hwritten : CodeText.ofChars (render (.object (textMembers ((name, value) :: members)))) =
      .char '\x7b' :: (inQuotes name ++
        .char ':' :: (inQuotes value ++ writtenMembers members)) := by
    simp [textMembers, writtenMembers, inQuotes, render, CodeText.ofChars]
  have hfuel := length_lt_writtenMembers members
  rw [hwritten]
  generalize hwidth : (CodePoint.char '\x7b' :: (inQuotes name ++ .char ':' :: (inQuotes value ++
    writtenMembers members))).length = width
  have hlength : members.length < width := by
    simp only [List.length_cons, List.length_append] at hwidth
    omega
  -- there is room for the object, and texts hold nothing
  obtain ⟨room, hroom⟩ := depth.exists_levels_eq
  have hvalue : scanValue width depth.levels (.char '\x7b' :: (inQuotes name ++
      .char ':' :: (inQuotes value ++ writtenMembers members))) =
        .ok (.object (Named.ofPairs (textMembers ((name, value) :: members))), []) := by
    rw [hroom]
    unfold scanValue
    rw [if_neg (by decide), if_neg (by decide), if_pos rfl]
    simp only [skipWhitespace_inQuotes]
    split
    · rename_i hbrace
      rw [inQuotes_append] at hbrace
      cases hbrace
    · rw [scanMembers_written width room width name value members hlength]
      rfl
  rw [read, scanDocument, hwidth, skipWhitespace_char (by decide), hvalue]
  rfl

end MetricIntake.Json
