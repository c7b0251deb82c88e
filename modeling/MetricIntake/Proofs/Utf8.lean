import MetricIntake.Text.Utf8

/-!
# Characters written as bytes are read back

`Utf8.encode` writes a text as bytes, `Utf8.decode` reads it back (`decode_encode`), and so does
`Utf8.decodeHalves?`, which looks for surrogates first: `decodeHalves?_encode`.  A character has one
of four forms, by its number, and each step of either reader takes one character off.
-/

namespace MetricIntake.Utf8

/-! ### The four forms of a character -/

theorem toNat_ofNat_of_lt {n : Nat} (h : n < 0x100) : (UInt8.ofNat n).toNat = n := by
  rw [UInt8.toNat_ofNat', Nat.mod_eq_of_lt h]

/-- The numbers of characters leave out the surrogates. -/
theorem char_toNat_valid (c : Char) : c.toNat < 0xD800 ∨ 0xDFFF < c.toNat ∧ c.toNat < 0x110000 :=
  c.valid

/-- The bytes of a character, with the number that they carry. -/
inductive Form (c : Char) : List UInt8 → Prop
  | one {a : UInt8} (ha : a.toNat < 0x80) (hc : c = Char.ofNat a.toNat) : Form c [a]
  | two {a b : UInt8} (ha : 0xC2 ≤ a.toNat ∧ a.toNat < 0xE0) (hb : isContinuation b)
      (hc : c = Char.ofNat (a.toNat % 0x20 * 0x40 + payload b)) : Form c [a, b]
  | three {a b d : UInt8} (ha : 0xE0 ≤ a.toNat ∧ a.toNat < 0xF0) (hb : isSecond a b)
      (hd : isContinuation d)
      (hc : c = Char.ofNat ((a.toNat % 0x10 * 0x40 + payload b) * 0x40 + payload d)) :
      Form c [a, b, d]
  | four {a b d e : UInt8} (ha : 0xF0 ≤ a.toNat ∧ a.toNat < 0xF5) (hb : isSecond a b)
      (hd : isContinuation d) (he : isContinuation e)
      (hc : c = Char.ofNat (((a.toNat % 0x08 * 0x40 + payload b) * 0x40 + payload d) * 0x40 +
        payload e)) : Form c [a, b, d, e]

theorem isContinuation_iff {b : UInt8} :
    isContinuation b = true ↔ 0x80 ≤ b.toNat ∧ b.toNat < 0xC0 := by
  simp [isContinuation]

/-- A second byte carries on from the first one, and leaves out what has another form. -/
theorem isSecond_iff {a b : UInt8} :
    isSecond a b = true ↔ (0x80 ≤ b.toNat ∧ b.toNat < 0xC0) ∧
      (a.toNat = 0xE0 → 0xA0 ≤ b.toNat) ∧ (a.toNat = 0xED → b.toNat < 0xA0) ∧
      (a.toNat = 0xF0 → 0x90 ≤ b.toNat) ∧ (a.toNat = 0xF4 → b.toNat < 0x90) := by
  simp only [isSecond, isContinuation, Bool.and_eq_true, Bool.not_eq_true', decide_eq_true_eq,
    decide_eq_false_iff_not, Bool.and_eq_false_iff]
  omega

/-- Each character has one of the four forms. -/
theorem form_utf8EncodeChar (c : Char) : Form c (String.utf8EncodeChar c) := by
  have hvalid := char_toNat_valid c
  have hc : Char.ofNat c.val.toNat = c := Char.ofNat_toNat c
  unfold String.utf8EncodeChar
  dsimp only
  change c.val.toNat < _ ∨ _ < c.val.toNat ∧ c.val.toNat < _ at hvalid
  generalize c.val.toNat = v at hvalid hc ⊢
  -- the bytes are below 256, and the number of the character is put together from them
  have hb : ∀ n, (UInt8.ofNat (n % 64 + 128)).toNat = n % 64 + 128 :=
    fun n => toNat_ofNat_of_lt (by omega)
  split
  · have ha : (UInt8.ofNat v).toNat = v := toNat_ofNat_of_lt (by omega)
    refine .one (by omega) ?_
    rw [ha, hc]
  · split
    · have ha : (UInt8.ofNat (v / 64 % 32 + 192)).toNat = v / 64 % 32 + 192 :=
        toNat_ofNat_of_lt (by omega)
      refine .two ?_ ?_ ?_
      · rw [ha]
        omega
      · rw [isContinuation_iff, hb]
        omega
      · refine hc.symm.trans (congrArg Char.ofNat ?_)
        rw [payload, ha, hb]
        omega
    · split
      · have ha : (UInt8.ofNat (v / 4096 % 16 + 224)).toNat = v / 4096 % 16 + 224 :=
          toNat_ofNat_of_lt (by omega)
        refine .three ?_ ?_ ?_ ?_
        · rw [ha]
          omega
        · rw [isSecond_iff, ha, hb]
          omega
        · rw [isContinuation_iff, hb]
          omega
        · refine hc.symm.trans (congrArg Char.ofNat ?_)
          rw [payload, payload, ha, hb, hb]
          omega
      · have ha : (UInt8.ofNat (v / 262144 % 8 + 240)).toNat = v / 262144 % 8 + 240 :=
          toNat_ofNat_of_lt (by omega)
        refine .four ?_ ?_ ?_ ?_ ?_
        · rw [ha]
          omega
        · rw [isSecond_iff, ha, hb]
          omega
        · rw [isContinuation_iff, hb]
          omega
        · rw [isContinuation_iff, hb]
          omega
        · refine hc.symm.trans (congrArg Char.ofNat ?_)
          rw [payload, payload, payload, ha, hb, hb, hb]
          omega

/-- The bytes of a string are the bytes of its characters. -/
theorem encode_toList (s : String) : encode s.toList = s.toUTF8.data.toList := by
  rw [String.toUTF8_eq_toByteArray, ← String.utf8Encode_toList, List.utf8Encode,
    List.data_toByteArray, encode]

/-! ### Reading back -/

/-- The bytes of a character are one step of the reader. -/
theorem decodeFrom_form {c : Char} {bytes : List UInt8} (h : Form c bytes) (acc : List Char)
    (position : Nat) (rest : List UInt8) :
    decodeFrom acc position (bytes ++ rest) =
      decodeFrom (c :: acc) (position + bytes.length) rest := by
  cases h with
  | @one a ha hc =>
    have hlen : sequenceLength? a = some 1 := by
      simp [sequenceLength?, ha]
    rw [List.cons_append, decodeFrom.eq_def, hc]
    simp [hlen]
  | @two a b ha hb hc =>
    have hlen : sequenceLength? a = some 2 := by
      have h1 : ¬ a.toNat < 0x80 := by omega
      have h2 : ¬ a.toNat < 0xC2 := by omega
      simp [sequenceLength?, h1, h2, ha.2]
    have hsecond : isSecond a b = true := by
      rw [isSecond_iff]
      rw [isContinuation_iff] at hb
      omega
    rw [List.cons_append, decodeFrom.eq_def, hc]
    simp [hlen, hsecond]
  | @three a b d ha hb hd hc =>
    have hlen : sequenceLength? a = some 3 := by
      have h1 : ¬ a.toNat < 0x80 := by omega
      have h2 : ¬ a.toNat < 0xC2 := by omega
      have h3 : ¬ a.toNat < 0xE0 := by omega
      simp [sequenceLength?, h1, h2, h3, ha.2]
    rw [List.cons_append, decodeFrom.eq_def, hc]
    simp [hlen, hb, hd]
  | @four a b d e ha hb hd he hc =>
    have hlen : sequenceLength? a = some 4 := by
      have h1 : ¬ a.toNat < 0x80 := by omega
      have h2 : ¬ a.toNat < 0xC2 := by omega
      have h3 : ¬ a.toNat < 0xE0 := by omega
      have h4 : ¬ a.toNat < 0xF0 := by omega
      simp [sequenceLength?, h1, h2, h3, h4, ha.2]
    rw [List.cons_append, decodeFrom.eq_def, hc]
    simp [hlen, hb, hd, he]

theorem decodeFrom_encode (cs : List Char) (acc : List Char) (position : Nat) :
    decodeFrom acc position (encode cs) = .ok (acc.reverse ++ cs) := by
  induction cs generalizing acc position with
  | nil => simp [encode, decodeFrom]
  | cons c cs ih =>
    rw [encode, List.flatMap_cons, decodeFrom_form (form_utf8EncodeChar c)]
    refine (ih _ _).trans ?_
    simp

/-- **Every text is read back from its bytes.** -/
theorem decode_encode (cs : List Char) : decode (encode cs) = .ok cs :=
  decodeFrom_encode cs [] 0

/-! ### Surrogates -/

/-- A byte that starts no surrogate is passed over. -/
theorem splitHalves_cons {b : UInt8} (h : b ≠ 0xED) (rest : List UInt8) :
    splitHalves (b :: rest) = (b :: (splitHalves rest).1, (splitHalves rest).2) := by
  rw [splitHalves]
  intro b' c' rest' hb
  exact absurd hb h

/-- The byte that surrogates start with is passed over where another character starts. -/
theorem splitHalves_cons_cons {a b c : UInt8} (h : halfOf? b c = none) (rest : List UInt8) :
    splitHalves (a :: b :: c :: rest) =
      (a :: (splitHalves (b :: c :: rest)).1, (splitHalves (b :: c :: rest)).2) := by
  by_cases ha : a = 0xED
  · subst ha
    rw [splitHalves, h]
  · exact splitHalves_cons ha _

theorem ne_of_isContinuation {b : UInt8} (h : isContinuation b = true) : b ≠ 0xED := by
  rintro rfl
  exact absurd h (by decide)

/-- No character has the bytes of a surrogate. -/
theorem splitHalves_form {c : Char} {bytes : List UInt8} (h : Form c bytes) (rest : List UInt8) :
    splitHalves (bytes ++ rest) = (bytes ++ (splitHalves rest).1, (splitHalves rest).2) := by
  cases h with
  | @one a ha hc =>
    refine splitHalves_cons ?_ rest
    rintro rfl
    exact absurd ha (by decide)
  | @two a b ha hb hc =>
    have hne : a ≠ 0xED := by
      rintro rfl
      exact absurd ha (by decide)
    simp only [List.cons_append, List.nil_append]
    rw [splitHalves_cons hne, splitHalves_cons (ne_of_isContinuation hb)]
  | @three a b d ha hb hd hc =>
    -- the byte `0xED` may stand in front, but then no surrogate follows
    have hsplit : splitHalves (a :: b :: d :: rest) =
        (a :: (splitHalves (b :: d :: rest)).1, (splitHalves (b :: d :: rest)).2) := by
      by_cases hED : a = 0xED
      · have hlow : b.toNat < 0xA0 := (isSecond_iff.1 hb).2.2.1 (by rw [hED]; rfl)
        have hnone : halfOf? b d = none := if_neg fun h => absurd h.1 (Nat.not_le.2 hlow)
        exact splitHalves_cons_cons hnone rest
      · exact splitHalves_cons hED _
    have hbcont : isContinuation b = true := isContinuation_iff.2 (isSecond_iff.1 hb).1
    simp only [List.cons_append, List.nil_append]
    rw [hsplit, splitHalves_cons (ne_of_isContinuation hbcont),
      splitHalves_cons (ne_of_isContinuation hd)]
  | @four a b d e ha hb hd he hc =>
    have hne : a ≠ 0xED := by
      rintro rfl
      exact absurd ha (by decide)
    have hbcont : isContinuation b = true := isContinuation_iff.2 (isSecond_iff.1 hb).1
    simp only [List.cons_append, List.nil_append]
    rw [splitHalves_cons hne, splitHalves_cons (ne_of_isContinuation hbcont),
      splitHalves_cons (ne_of_isContinuation hd), splitHalves_cons (ne_of_isContinuation he)]

theorem splitHalves_encode (cs : List Char) : splitHalves (encode cs) = (encode cs, []) := by
  induction cs with
  | nil => rfl
  | cons c cs ih =>
    rw [encode, List.flatMap_cons, splitHalves_form (form_utf8EncodeChar c)]
    rw [encode] at ih
    rw [ih]

/-- **A text is read back from its bytes also where surrogates are looked for.** -/
theorem decodeHalves?_encode (cs : List Char) :
    decodeHalves? (encode cs) = some (CodeText.ofChars cs) := by
  have hdecode : decode? (encode cs) = some cs := by
    rw [decode?, decode_encode]
    rfl
  simp [decodeHalves?, splitHalves_encode, hdecode, decodeParts?]

end MetricIntake.Utf8
