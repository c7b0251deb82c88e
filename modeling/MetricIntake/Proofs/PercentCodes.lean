import MetricIntake.Proofs.Utf8
import MetricIntake.Text.Percent

/-!
# Percent-encoded texts

An encoded text is a segment of a URL (`Percent.isSegment_encode`): it has letters, digits and
`_ . - ~` in it, escapes of two upper-case hexadecimal digits, and nothing else.  What it stands for
are the bytes of the text (`Percent.decode_encode`), so no two texts are encoded alike.

Both are said of one byte first (`Percent.Code`), and of any bytes by induction.
-/

namespace MetricIntake.Percent

/-! ### Segments of a URL -/

/-- A character that stands for itself: an ASCII letter or digit, or one of four marks. -/
def isPlain (c : Char) : Bool := c.isAlphanum || c = '_' || c = '.' || c = '-' || c = '~'

/-- An upper-case hexadecimal digit. -/
def isUpperHex (c : Char) : Bool := c.isDigit || (c.isUpper && c ≤ 'F')

/-- Plain characters and escapes: a percent sign with two upper-case hexadecimal digits. -/
inductive IsSegment : List Char → Prop
  | nil : IsSegment []
  | plain {c : Char} {cs : List Char} (hc : isPlain c = true) (hcs : IsSegment cs) :
      IsSegment (c :: cs)
  | escape {high low : Char} {cs : List Char} (hhigh : isUpperHex high = true)
      (hlow : isUpperHex low = true) (hcs : IsSegment cs) : IsSegment ('%' :: high :: low :: cs)

theorem isPlain_of_isUpperHex {c : Char} (h : isUpperHex c = true) : isPlain c = true := by
  have halnum : c.isAlphanum = true := by
    rw [isUpperHex, Bool.or_eq_true, Bool.and_eq_true] at h
    show ((c.isUpper || c.isLower) || c.isDigit) = true
    rw [Bool.or_eq_true, Bool.or_eq_true]
    exact h.elim .inr fun hletter => .inl (.inl hletter.1)
  simp [isPlain, halnum]

/-- A character of a segment is plain or starts an escape. -/
theorem IsSegment.isPlain_or_eq {cs : List Char} (h : IsSegment cs) {c : Char} (hc : c ∈ cs) :
    isPlain c = true ∨ c = '%' := by
  induction h with
  | nil => cases hc
  | plain hplain _ ih =>
    rcases List.mem_cons.1 hc with rfl | hc
    · exact .inl hplain
    · exact ih hc
  | escape hhigh hlow _ ih =>
    simp only [List.mem_cons] at hc
    rcases hc with rfl | rfl | rfl | hc
    · exact .inr rfl
    · exact .inl (isPlain_of_isUpperHex hhigh)
    · exact .inl (isPlain_of_isUpperHex hlow)
    · exact ih hc

/-- What is neither plain nor a percent sign is in no segment. -/
theorem IsSegment.not_mem {cs : List Char} (h : IsSegment cs) {c : Char}
    (hplain : isPlain c = false) (hne : c ≠ '%') : c ∉ cs := by
  intro hc
  rcases h.isPlain_or_eq hc with hc | hc
  · rw [hplain] at hc
    cases hc
  · exact hne hc

/-! ### The code of a byte -/

/-- What a byte is encoded as: the plain character that it is, or an escape with its value. -/
inductive Code (b : UInt8) : List Char → Prop
  | plain {c : Char} (hc : isPlain c = true) (hb : Utf8.encode [c] = [b]) : Code b [c]
  | escape {high low : Char} (hhigh : isUpperHex high = true) (hlow : isUpperHex low = true)
      (hhighValue : Text.hexValue? high = some (b.toNat / 16))
      (hlowValue : Text.hexValue? low = some (b.toNat % 16)) : Code b ['%', high, low]

theorem isUpperHex_upperHexDigit : ∀ n < 16, isUpperHex (Text.upperHexDigit n) = true := by decide

theorem isPlain_of_isUnreserved {b : UInt8} (h : isUnreserved b = true) :
    isPlain (Char.ofNat b.toNat) = true ∧ Utf8.encode [Char.ofNat b.toNat] = [b] := by
  have hall : ∀ n < 256, isUnreserved (UInt8.ofNat n) = true →
      isPlain (Char.ofNat n) = true ∧ Utf8.encode [Char.ofNat n] = [UInt8.ofNat n] := by
    decide +kernel
  have hb := hall b.toNat b.toNat_lt
  rw [UInt8.ofNat_toNat] at hb
  exact hb h

theorem code_encodeByte (b : UInt8) : Code b (encodeByte b) := by
  unfold encodeByte
  split
  · rename_i h
    obtain ⟨hplain, hbyte⟩ := isPlain_of_isUnreserved h
    exact .plain hplain hbyte
  · have hhigh : b.toNat / 16 < 16 := by
      have := b.toNat_lt
      omega
    have hlow : b.toNat % 16 < 16 := Nat.mod_lt _ (by decide)
    exact .escape (isUpperHex_upperHexDigit _ hhigh) (isUpperHex_upperHexDigit _ hlow)
      (Text.hexValue?_upperHexDigit _ hhigh) (Text.hexValue?_upperHexDigit _ hlow)

variable {b : UInt8} {code : List Char}

theorem Code.isSegment_append (h : Code b code) {cs : List Char} (hcs : IsSegment cs) :
    IsSegment (code ++ cs) := by
  cases h with
  | plain hc _ => exact .plain hc hcs
  | escape hhigh hlow _ _ => exact .escape hhigh hlow hcs

/-- What is no percent sign stands for itself. -/
theorem decode_cons_of_ne {c : Char} (h : c ≠ '%') (cs : List Char) :
    decode (c :: cs) = Utf8.encode [c] ++ decode cs :=
  decode.eq_3 c cs fun _ _ _ hc _ => h hc

/-- A code is one step of the reader. -/
theorem Code.decode_append (h : Code b code) (cs : List Char) :
    decode (code ++ cs) = b :: decode cs := by
  cases h with
  | @plain c hc hb =>
    have hne : c ≠ '%' := by
      rintro rfl
      exact absurd hc (by decide)
    rw [List.singleton_append, decode_cons_of_ne hne, hb, List.singleton_append]
  | escape hhigh hlow hhighValue hlowValue =>
    rw [List.cons_append, List.cons_append, List.singleton_append, decode, hhighValue, hlowValue]
    have hvalue : b.toNat / 16 * 16 + b.toNat % 16 = b.toNat := Nat.div_add_mod' _ _
    dsimp only
    rw [hvalue, UInt8.ofNat_toNat]

/-! ### Encoded texts -/

theorem isSegment_flatMap_encodeByte (bytes : List UInt8) :
    IsSegment (bytes.flatMap encodeByte) := by
  induction bytes with
  | nil => exact .nil
  | cons b bytes ih => exact (code_encodeByte b).isSegment_append ih

/-- Any bytes are read back. -/
theorem decode_flatMap_encodeByte (bytes : List UInt8) :
    decode (bytes.flatMap encodeByte) = bytes := by
  induction bytes with
  | nil => exact decode.eq_1
  | cons b bytes ih =>
    rw [List.flatMap_cons, (code_encodeByte b).decode_append, ih]

theorem isSegment_encode (cs : List Char) : IsSegment (encode cs) :=
  isSegment_flatMap_encodeByte _

/-- **An encoded text stands for the bytes of the text.** -/
theorem decode_encode (cs : List Char) : decode (encode cs) = Utf8.encode cs :=
  decode_flatMap_encodeByte _

/-- No two texts are encoded alike. -/
theorem encode_injective : Function.Injective encode := by
  intro cs ds h
  have hbytes : Utf8.encode cs = Utf8.encode ds := by
    rw [← decode_encode, h, decode_encode]
  have htexts : Except.ok (ε := Utf8.DecodeError) cs = .ok ds := by
    rw [← Utf8.decode_encode, hbytes, Utf8.decode_encode]
  exact Except.ok.inj htexts

end MetricIntake.Percent
