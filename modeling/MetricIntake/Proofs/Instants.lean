import MetricIntake.Proofs.Times
import MetricIntake.Reading

/-!
# Instants

A point in time may be written in local time with its offset from UTC, in UTC without any, with the
letter `Z` and with the offset of UTC: each of these texts is read as that point in time.  The other
way round `TimeDigits` are digits in the places of a time; where there is no such date or time of
day, the text is malformed.  `readUtcTime_instants` is both.
-/

namespace MetricIntake

/-! ### Digits in their places -/

theorem digitValue_lt_ten {c : Char} (h : isDigit c = true) : digitValue c < 10 := by
  unfold isDigit at h
  obtain ⟨-, hnine⟩ := Bool.and_eq_true_iff.1 h
  have hle : c.toNat ≤ '9'.toNat := of_decide_eq_true hnine
  have hzero : '0'.toNat = 48 := rfl
  have hlast : '9'.toNat = 57 := rfl
  unfold digitValue
  omega

theorem digitValue_inj {c d : Char} (hc : isDigit c = true) (hd : isDigit d = true)
    (h : digitValue c = digitValue d) : c = d := by
  have hle {c : Char} (hc : isDigit c = true) : '0'.toNat ≤ c.toNat :=
    of_decide_eq_true (Bool.and_eq_true_iff.1 hc).1
  have hcle := hle hc
  have hdle := hle hd
  unfold digitValue at h
  exact Char.toNat_inj.1 (by omega)

/-- Digits write a number that their places have room for. -/
theorem digitsValue_lt {ds : List Char} (hds : ∀ c ∈ ds, isDigit c = true) :
    digitsValue ds < 10 ^ ds.length := by
  induction ds using List.reverseRecOn with
  | nil => decide
  | append_singleton ds c ih =>
    have hinit := ih fun d hd => hds d (List.mem_append_left _ hd)
    have hlast := digitValue_lt_ten (hds c (List.mem_append_right _ List.mem_cons_self))
    rw [digitsValue_concat, List.length_append, List.length_singleton, Nat.pow_succ]
    omega

/-- As many digits that write the same number are the same digits. -/
theorem digitsValue_inj {cs ds : List Char} (hcs : ∀ c ∈ cs, isDigit c = true)
    (hds : ∀ c ∈ ds, isDigit c = true) (hlength : cs.length = ds.length)
    (h : digitsValue cs = digitsValue ds) : cs = ds := by
  -- the last digits are the remainders by ten, and those in front of them write the quotients
  induction cs using List.reverseRecOn generalizing ds with
  | nil => exact (List.length_eq_zero_iff.1 hlength.symm).symm
  | append_singleton cs c ih =>
    rcases List.eq_nil_or_concat' ds with rfl | ⟨ds, d, rfl⟩
    · simp at hlength
    · have hc := hcs c (List.mem_append_right _ List.mem_cons_self)
      have hd := hds d (List.mem_append_right _ List.mem_cons_self)
      have hclt := digitValue_lt_ten hc
      have hdlt := digitValue_lt_ten hd
      rw [digitsValue_concat, digitsValue_concat] at h
      have hinit : cs = ds :=
        ih (fun x hx => hcs x (List.mem_append_left _ hx))
          (fun x hx => hds x (List.mem_append_left _ hx)) (by simpa using hlength) (by omega)
      rw [hinit, digitValue_inj hc hd (by omega)]

/-- So many digits. -/
def Digits (width : Nat) : Type :=
  { ds : List Char // ds.length = width ∧ ds.all isDigit = true }

namespace Digits

variable {width : Nat}

theorem isDigit_of_mem (ds : Digits width) : ∀ c ∈ ds.1, isDigit c = true :=
  List.all_eq_true.1 ds.2.2

/-- The number that the digits write. -/
def value (ds : Digits width) : Nat := digitsValue ds.1

theorem value_lt (ds : Digits width) : ds.value < 10 ^ width := by
  have hlt := digitsValue_lt ds.isDigit_of_mem
  rwa [ds.2.1] at hlt

/-- Digits are what is written of their number in their places. -/
theorem paddedText_value (hpos : 0 < width) (ds : Digits width) :
    paddedText width ds.value = ds.1 := by
  have hlength := length_paddedText hpos ds.value_lt
  exact digitsValue_inj (fun c => isDigit_of_mem_paddedText) ds.isDigit_of_mem
    (hlength.trans ds.2.1.symm) (digitsValue_paddedText width ds.value)

end Digits

/-- Digits in the places of a date and a time of day. -/
structure TimeDigits where
  year : Digits 4
  month : Digits 2
  day : Digits 2
  hour : Digits 2
  minute : Digits 2
  second : Digits 2

namespace TimeDigits

/-- The digits and what stands between them: `YYYY-MM-DDTHH:MM:SS`. -/
def text (t : TimeDigits) : List Char :=
  t.year.1 ++ '-' :: (t.month.1 ++ '-' :: (t.day.1 ++ 'T' :: (t.hour.1 ++ ':' :: (t.minute.1 ++
    ':' :: t.second.1))))

/-- The numbers that the digits write. -/
def fields (t : TimeDigits) : TimeFields :=
  { date := { year := t.year.value, month := t.month.value, day := t.day.value }
    hour := t.hour.value, minute := t.minute.value, second := t.second.value, micro := 0 }

theorem fits_fields (t : TimeDigits) : t.fields.Fits :=
  ⟨⟨t.year.value_lt, t.month.value_lt, t.day.value_lt⟩, t.hour.value_lt, t.minute.value_lt,
    t.second.value_lt, Nat.zero_lt_succ _⟩

/-- What is written of the numbers is the digits. -/
theorem text_fields (t : TimeDigits) : t.fields.text = t.text := by
  have hpos : 0 < 2 := by decide
  simp [TimeFields.text, fields, text, Digits.paddedText_value (by decide : 0 < 4) t.year,
    Digits.paddedText_value hpos]

end TimeDigits

/-! ### Offsets -/

namespace Offset

/-- So many seconds ahead of UTC or behind it. -/
def ofSeconds (negative : Bool) (seconds : Nat) : Offset :=
  ⟨(if negative then -(seconds : Int) else seconds) * 1000000⟩

/-- The written offset, the seconds only where there are any. -/
def text (negative : Bool) (seconds : Nat) : List Char :=
  (if negative then '-' else '+') :: (paddedText 2 (seconds / 3600) ++ ':' ::
    (paddedText 2 (seconds / 60 % 60) ++
      if seconds % 60 = 0 then [] else ':' :: paddedText 2 (seconds % 60)))

/-- The time that the text shows behind its sign is read. -/
theorem read?_clock {seconds : Nat} (h : seconds < 86400) :
    ClockText.read? (paddedText 2 (seconds / 3600) ++ ':' :: (paddedText 2 (seconds / 60 % 60) ++
        if seconds % 60 = 0 then [] else ':' :: paddedText 2 (seconds % 60))) =
      some
        { hour := seconds / 3600, minute := seconds / 60 % 60, second := seconds % 60, micro := 0
          trailing := false } := by
  have hne (n : Nat) (rest : List Char) : paddedText 2 n ++ rest ≠ [] := by
    simp [paddedText, wholeText_ne_nil]
  unfold ClockText.read?
  rw [ClockText.readFrom_colon (by omega) 1 (.inl rfl) (hne _ _)]
  split
  · rename_i hzero
    rw [ClockText.readFrom, takeNumber_paddedText (by decide) (by omega) [], hzero]
    rfl
  · rw [ClockText.readFrom_colon (by omega) 0 (.inr rfl) (by simpa using hne _ [])]
    have hsecond : seconds % 60 < 100 := by omega
    have hseconds := ClockText.readFrom_seconds (seconds / 3600) (seconds / 60 % 60) hsecond
      (show 0 < 1000000 by decide)
    simpa using hseconds

/-- **An offset of less than a day is read from its text.** -/
theorem read?_text {seconds : Nat} (h : seconds < 86400) (negative : Bool) :
    read? (text negative seconds) = some (ofSeconds negative seconds) := by
  -- the places of a clock put the seconds together again
  have hparts : (seconds / 3600 * 60 + seconds / 60 % 60) * 60 + seconds % 60 = seconds := by omega
  have hday : seconds * 1000000 < microsPerDay := by
    unfold microsPerDay
    omega
  have hsign : (if negative then '-' else '+') ≠ 'Z' := by cases negative <;> decide
  have hminus : (if negative then '-' else '+') = '-' ↔ negative = true := by
    cases negative <;> decide
  unfold text
  generalize (if negative then '-' else '+') = sign at hsign hminus
  rw [read?, read?_clock h]
  · dsimp only
    rw [hparts]
    by_cases hzero : seconds = 0
    · simp [hzero, ofSeconds]
    · simp [hzero, hday, hminus, ofSeconds]
  · exact hsign

/-- There is nothing blank in a written offset. -/
theorem isBlank_of_mem_text {negative : Bool} {seconds : Nat} {c : Char}
    (h : c ∈ text negative seconds) : Text.isBlank c = false := by
  have hpadded {n : Nat} (hc : c ∈ paddedText 2 n) : Text.isBlank c = false :=
    isBlank_of_isDigit (isDigit_of_mem_paddedText hc)
  unfold text at h
  simp only [List.mem_cons, List.mem_append] at h
  rcases h with rfl | h | rfl | h | h
  · cases negative <;> rfl
  · exact hpadded h
  · rfl
  · exact hpadded h
  · split at h
    · cases h
    · rcases List.mem_cons.1 h with rfl | h
      · rfl
      · exact hpadded h

end Offset

/-! ### Every text of an instant -/

/-- Local time with its offset is read as the point in time that it is. -/
theorem readUtcTime_local {t here : UtcTime} {negative : Bool} {seconds : Nat}
    (hday : seconds < 86400)
    (hhere : (here.micros : Int) = t.micros + (Offset.ofSeconds negative seconds).micros) :
    readUtcTime (.ofChars (here.fields.text ++ Offset.text negative seconds)) = .ok t := by
  obtain ⟨hvalid, hmicros⟩ := TimeFields.micros_ofMicros here.inRange
  have hstart : ∀ c ∈ (Offset.text negative seconds).head?, startsOffset c = true := by
    cases negative <;> simp [Offset.text, startsOffset]
  have hread := TimeFields.readUtcTime_text (TimeFields.fits hvalid) hstart
    (fun c => Offset.isBlank_of_mem_text) (Offset.read?_text hday negative)
  rw [if_pos hvalid, hmicros, hhere, Int.add_sub_cancel, UtcTime.ofMicros?_micros] at hread
  exact hread

/-- What may stand behind a time that is in UTC anyway: nothing, or the letter `Z`. -/
def zuluTexts : List (List Char) := [[], ['Z']]

/-- The fields of a time in UTC are read from their text if they are valid. -/
theorem readUtcTime_zulu {f : TimeFields} (h : f.Fits) {zulu : List Char}
    (hzulu : zulu ∈ zuluTexts) :
    readUtcTime (.ofChars (f.text ++ zulu)) =
      if f.isValid = true then
        (UtcTime.ofMicros? f.micros).elim (.error .outOfRange) .ok
      else .error (.malformed (.ofChars (f.text ++ zulu))) := by
  have hparts : (∀ c ∈ zulu.head?, startsOffset c = true) ∧
      (∀ c ∈ zulu, Text.isBlank c = false) ∧ Offset.read? zulu = some ⟨0⟩ := by
    simp only [zuluTexts, List.mem_cons, List.not_mem_nil, or_false] at hzulu
    rcases hzulu with rfl | rfl
    · exact ⟨by simp, by simp, rfl⟩
    · exact ⟨by simp [startsOffset], List.forall_mem_singleton.2 rfl, by decide⟩
  have hread := TimeFields.readUtcTime_text h hparts.1 hparts.2.1 hparts.2.2
  rwa [Int.sub_zero] at hread

/-- A point in time is read from its text in UTC. -/
theorem readUtcTime_fields (t : UtcTime) {zulu : List Char} (hzulu : zulu ∈ zuluTexts) :
    readUtcTime (.ofChars (t.fields.text ++ zulu)) = .ok t := by
  obtain ⟨hvalid, hmicros⟩ := TimeFields.micros_ofMicros t.inRange
  have hread := readUtcTime_zulu (TimeFields.fits hvalid) hzulu
  rw [if_pos hvalid, hmicros, UtcTime.ofMicros?_micros] at hread
  exact hread

/-- A point in time is read from the text that readings are handed out with. -/
theorem readUtcTime_isoZulu (t : UtcTime) : readUtcTime t.isoZulu = .ok t := by
  rw [UtcTime.isoZulu, CodeText.ofString, String.toList_ofList]
  exact readUtcTime_fields t (by decide)

/-- Digits of a date or a time of day that does not exist are refused. -/
theorem readUtcTime_of_not_isValid {digits : TimeDigits} (h : digits.fields.isValid = false)
    {zulu : List Char} (hzulu : zulu ∈ zuluTexts) :
    readUtcTime (.ofChars (digits.text ++ zulu)) =
      .error (.malformed (.ofChars (digits.text ++ zulu))) := by
  have hread := readUtcTime_zulu digits.fits_fields hzulu
  rwa [h, if_neg Bool.false_ne_true, digits.text_fields] at hread

/-- **Reading a time preserves the instant.**  Local time with an offset of whole seconds that is
less than a day is read as the point in time that it is; so are the time in UTC, without an offset,
with the letter `Z` as in the members of a reading, and with the offset of UTC.  Digits in the
places of a date and a time of day of which one does not exist are malformed. -/
theorem readUtcTime_instants :
    (∀ (t here : UtcTime) (negative : Bool) (seconds : Nat), seconds < 86400 →
        (here.micros : Int) = t.micros + (Offset.ofSeconds negative seconds).micros →
          readUtcTime (.ofChars (here.fields.text ++ Offset.text negative seconds)) = .ok t) ∧
      (∀ t : UtcTime, readUtcTime (.ofChars t.fields.text) = .ok t ∧
        readUtcTime t.isoZulu = .ok t ∧ readUtcTime t.iso = .ok t) ∧
      (∀ r : Reading, ∃ text members,
        r.toJson = .object (("time", .text text) :: members) ∧ readUtcTime text = .ok r.time) ∧
      ∀ digits : TimeDigits, digits.fields.isValid = false → ∀ zulu ∈ zuluTexts,
        readUtcTime (.ofChars (digits.text ++ zulu)) =
          .error (.malformed (.ofChars (digits.text ++ zulu))) := by
  refine ⟨fun t here negative seconds => readUtcTime_local,
    fun t => ⟨?_, readUtcTime_isoZulu t, ?_⟩, fun r => ⟨_, _, rfl, readUtcTime_isoZulu r.time⟩,
    fun digits h zulu => readUtcTime_of_not_isValid h⟩
  · have hread := readUtcTime_fields t (show [] ∈ zuluTexts by decide)
    rwa [List.append_nil] at hread
  · exact readUtcTime_iso t

/-- Half past midnight of 1 March, an hour ahead of UTC, is the evening of the leap day before; the
year before has no such day. -/
theorem readUtcTime_leapDay :
    readUtcTime "2024-03-01T00:30:00+01:00" =
        .ok ⟨TimeFields.micros ⟨⟨2024, 2, 29⟩, 23, 30, 0, 0⟩, by decide⟩ ∧
      readUtcTime "2023-02-29T23:30:00Z" = .error (.malformed "2023-02-29T23:30:00Z") := by
  obtain ⟨hlocal, -, -, hmalformed⟩ := readUtcTime_instants
  constructor
  · have hread := hlocal ⟨TimeFields.micros ⟨⟨2024, 2, 29⟩, 23, 30, 0, 0⟩, by decide⟩
      ⟨TimeFields.micros ⟨⟨2024, 3, 1⟩, 0, 30, 0, 0⟩, by decide⟩ false 3600 (by decide) (by decide)
    have htext : (TimeFields.ofMicros (TimeFields.micros ⟨⟨2024, 3, 1⟩, 0, 30, 0, 0⟩)).text ++
        Offset.text false 3600 = "2024-03-01T00:30:00+01:00".toList := by
      decide +kernel
    rw [UtcTime.fields, htext] at hread
    exact hread
  · exact hmalformed
      { year := ⟨['2', '0', '2', '3'], by decide⟩, month := ⟨['0', '2'], by decide⟩
        day := ⟨['2', '9'], by decide⟩, hour := ⟨['2', '3'], by decide⟩
        minute := ⟨['3', '0'], by decide⟩, second := ⟨['0', '0'], by decide⟩ }
      (by decide) ['Z'] (by decide)

end MetricIntake
