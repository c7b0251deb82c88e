import MetricIntake.Proofs.Calendar
import MetricIntake.Proofs.Numerals
import MetricIntake.Time.Reader

/-!
# Written times

What `TimeFields.text` writes of fields is read as those fields, whatever offset stands behind it,
if they are valid, and is malformed if they are not: `readTimeFields?_text`.  Each reader gets what
was written for it and the text that follows.  A point in time is read back from its own text,
`readUtcTime_iso`.

The other way round, fields are read only if they are valid, and an offset only if it is less than a
day: `isValid_of_readTimeFields?`.  So a text can fail for being out of range only at the two ends
of the calendar (`readUtcTime_eq_outOfRange_iff`).
-/

namespace MetricIntake

/-! ### Numbers of a width -/

/-- **A number of a width is taken off the text in front of which it stands.** -/
theorem takeNumber_paddedText {width n : Nat} (hpos : 0 < width) (h : n < 10 ^ width)
    (rest : List Char) : takeNumber width (paddedText width n ++ rest) = some (n, rest) := by
  have hlength := length_paddedText hpos h
  have htake : (paddedText width n ++ rest).take width = paddedText width n :=
    List.take_left' hlength
  have hdrop : (paddedText width n ++ rest).drop width = rest := List.drop_left' hlength
  have hdigits : (paddedText width n).all isDigit = true :=
    List.all_eq_true.2 fun _ => isDigit_of_mem_paddedText
  unfold takeNumber
  simp only [htake, hdrop, hdigits, hlength, and_self, if_true, digitsValue_paddedText]

/-- Two digits in front of a text. -/
theorem paddedText_two_eq {n : Nat} (h : n < 100) :
    ∃ c d, paddedText 2 n = [c, d] ∧ isDigit c = true ∧ isDigit d = true := by
  have hlength : (paddedText 2 n).length = 2 := length_paddedText (by decide) h
  have hdigits : ∀ c ∈ paddedText 2 n, isDigit c = true := fun _ => isDigit_of_mem_paddedText
  generalize paddedText 2 n = ds at hlength hdigits ⊢
  match ds, hlength with
  | [c, d], _ => exact ⟨c, d, rfl, hdigits c (by simp), hdigits d (by simp)⟩

/-! ### Dates -/

/-- The written date. -/
def Date.text (d : Date) : List Char :=
  paddedText 4 d.year ++ '-' :: paddedText 2 d.month ++ '-' :: paddedText 2 d.day

namespace Date

variable {d : Date}

/-- The parts of a date have room in their places. -/
def Fits (d : Date) : Prop := d.year < 10000 ∧ d.month < 100 ∧ d.day < 100

/-- A date that exists has room. -/
theorem fits (h : d.isValid = true) : d.Fits := by
  obtain ⟨⟨-, hyear⟩, ⟨-, hmonth⟩, -, hday⟩ := isValid_eq_true_iff.1 h
  have hlong : Calendar.daysInMonth d.year d.month ≤ 31 := by
    unfold Calendar.daysInMonth
    split <;> (try split) <;> decide
  unfold Calendar.lastYear at hyear
  unfold Fits
  omega

theorem length_text (h : d.Fits) : d.text.length = 10 := by
  obtain ⟨hyear, hmonth, hday⟩ := h
  simp [text, length_paddedText (by decide : 0 < 4) hyear,
    length_paddedText (by decide : 0 < 2) hmonth, length_paddedText (by decide : 0 < 2) hday]

/-- Ten characters are taken for a date that is written with hyphens. -/
theorem dateLength_text (h : d.Fits) (rest : List Char) :
    DateText.length (d.text ++ rest) = 10 := by
  obtain ⟨hyear, hmonth, -⟩ := id h
  have hlength : (d.text ++ rest).length ≠ 7 := by
    rw [List.length_append, length_text h]
    omega
  have hdrop : (d.text ++ rest).drop 4 =
      '-' :: (paddedText 2 d.month ++ '-' :: paddedText 2 d.day ++ rest) := by
    simp only [text, List.append_assoc, List.cons_append]
    exact List.drop_left' (length_paddedText (by decide) hyear)
  -- a week would have a letter where the month has a digit
  obtain ⟨c, c', htwo, hc, -⟩ := paddedText_two_eq hmonth
  have hweek : c ≠ 'W' := ne_of_isDigit hc rfl
  unfold DateText.length
  rw [if_neg hlength, hdrop, htwo]
  split
  · rename_i heq
    exact absurd (List.cons.inj (List.cons.inj heq).2).1 hweek
  · rfl
  · rename_i heq
    exact absurd (List.cons.inj heq).1 (by decide)
  · rename_i hhyphen _
    exact absurd rfl (hhyphen _)

/-- **A date is read from its text** if it exists. -/
theorem read?_text (h : d.Fits) :
    DateText.read? d.text = if d.isValid = true then some d else none := by
  obtain ⟨hyear, hmonth, hday⟩ := h
  obtain ⟨c, c', htwo, hc, -⟩ := paddedText_two_eq hmonth
  have hweek : c ≠ 'W' := ne_of_isDigit hc rfl
  have hread : DateText.readDay? d.year true (paddedText 2 d.month ++ '-' :: paddedText 2 d.day) =
      if d.isValid = true then some d else none := by
    have hlast := takeNumber_paddedText (by decide : 0 < 2) hday []
    rw [List.append_nil] at hlast
    simp [DateText.readDay?, takeNumber_paddedText (by decide : 0 < 2) hmonth, hlast]
  rw [htwo] at hread
  unfold DateText.read?
  simp only [text, List.append_assoc, List.cons_append,
    takeNumber_paddedText (by decide : 0 < 4) hyear]
  simpa [htwo, hweek] using hread

end Date

/-! ### Times of day -/

namespace ClockText

/-- Two digits and a colon are one part of a time of day, and the rest is read for the parts behind
it. -/
theorem readFrom_colon {n : Nat} (h : n < 100) (fuel : Nat) {colons : Bool} {parts : List Nat}
    (hcolons : parts = [] ∨ colons = true) {behind : List Char} (hne : behind ≠ []) :
    readFrom (fuel + 2) colons parts (paddedText 2 n ++ ':' :: behind) =
      readFrom (fuel + 1) true (parts ++ [n]) behind := by
  have htake := takeNumber_paddedText (by decide : 0 < 2) h (':' :: behind)
  -- behind the first part the colon itself says that colons part them
  have hmode : if (parts ++ [n]).length = 1 then ':' = ':' else colons = true := by
    rcases hcolons with rfl | rfl
    · rfl
    · split <;> rfl
  rw [readFrom, htake]
  cases behind with
  | nil => exact absurd rfl hne
  | cons c cs =>
    dsimp only [bind, Option.bind]
    rw [decide_eq_true hmode]
    rfl

/-- The digits of a fraction are microseconds if there are six of them. -/
theorem readFraction?_paddedText {micro : Nat} (h : micro < 10 ^ 6) :
    readFraction? (paddedText 6 micro) = some (micro, false) := by
  have hlength := length_paddedText (by decide) h
  have htake := takeNumber_paddedText (by decide) h []
  rw [List.append_nil] at htake
  simp [readFraction?, hlength, htake, isTrailing]

/-- The seconds and the fraction behind them end a time of day. -/
theorem readFrom_seconds (hour minute : Nat) {second micro : Nat} (hsecond : second < 100)
    (hmicro : micro < 10 ^ 6) :
    readFrom 1 true [hour, minute]
        (paddedText 2 second ++ if micro = 0 then [] else '.' :: paddedText 6 micro) =
      some { hour, minute, second, micro, trailing := false } := by
  have htake := takeNumber_paddedText (by decide : 0 < 2) hsecond
  have hfraction := readFraction?_paddedText hmicro
  rw [readFrom, htake]
  dsimp only [bind, Option.bind]
  by_cases h0 : micro = 0
  · subst h0
    rfl
  · rw [if_neg h0]
    cases hdigits : paddedText 6 micro with
    | nil =>
      have hlength := length_paddedText (by decide) hmicro
      rw [hdigits] at hlength
      cases hlength
    | cons c cs =>
      rw [hdigits] at hfraction
      simp [hfraction]

end ClockText

namespace TimeFields

/-- The written time of day. -/
def clockText (f : TimeFields) : List Char :=
  paddedText 2 f.hour ++ ':' :: (paddedText 2 f.minute ++ ':' :: (paddedText 2 f.second ++
    if f.micro = 0 then [] else '.' :: paddedText 6 f.micro))

/-- A time is written with its date in front. -/
theorem text_eq (f : TimeFields) : f.text = f.date.text ++ 'T' :: f.clockText := by
  simp only [text, Date.text, clockText, List.append_assoc, List.cons_append]

/-- There are no other characters in a written time of day. -/
theorem mem_clockText {f : TimeFields} {c : Char} (h : c ∈ f.clockText) :
    isDigit c = true ∨ c = ':' ∨ c = '.' := by
  have hdigit {width n : Nat} (hc : c ∈ paddedText width n) : isDigit c = true :=
    isDigit_of_mem_paddedText hc
  simp only [clockText, List.mem_append, List.mem_cons] at h
  rcases h with h | rfl | h | rfl | h | h
  · exact .inl (hdigit h)
  · exact .inr (.inl rfl)
  · exact .inl (hdigit h)
  · exact .inr (.inl rfl)
  · exact .inl (hdigit h)
  · split at h
    · cases h
    · rcases List.mem_cons.1 h with rfl | h
      · exact .inr (.inr rfl)
      · exact .inl (hdigit h)

variable {f : TimeFields}

/-- The parts of a time have room in their places. -/
structure Fits (f : TimeFields) : Prop where
  date : f.date.Fits
  hour : f.hour < 100
  minute : f.minute < 100
  second : f.second < 100
  micro : f.micro < 1000000

/-- Valid fields have room. -/
theorem fits (h : f.isValid = true) : f.Fits := by
  obtain ⟨hdate, hhour, hminute, hsecond, hmicro⟩ := isValid_eq_true_iff.1 h
  exact ⟨Date.fits hdate, by omega, by omega, by omega, hmicro⟩

/-- **A time of day is read from its text**, whether or not there is such a time. -/
theorem read?_clockText (h : f.Fits) :
    ClockText.read? f.clockText =
      some
        { hour := f.hour, minute := f.minute, second := f.second, micro := f.micro
          trailing := false } := by
  have hne (n : Nat) (rest : List Char) : paddedText 2 n ++ rest ≠ [] := by
    simp [paddedText, wholeText_ne_nil]
  unfold ClockText.read? clockText
  rw [ClockText.readFrom_colon h.hour 1 (.inl rfl) (hne _ _),
    ClockText.readFrom_colon h.minute 0 (.inr rfl) (hne _ _)]
  exact ClockText.readFrom_seconds _ _ h.second h.micro

/-! ### Whole times -/

/-- Nothing in a written time of day starts an offset. -/
theorem startsOffset_of_mem_clockText {c : Char} (h : c ∈ f.clockText) :
    startsOffset c = false := by
  rcases mem_clockText h with hc | rfl | rfl
  · have hplus : c ≠ '+' := ne_of_isDigit hc rfl
    have hminus : c ≠ '-' := ne_of_isDigit hc rfl
    have hzulu : c ≠ 'Z' := ne_of_isDigit hc rfl
    simp [startsOffset, hplus, hminus, hzulu]
  · rfl
  · rfl

/-- **Valid fields are read from their text**, with the offset that stands behind it, and others are
not. -/
theorem readTimeFields?_text (h : f.Fits) {offsetText : List Char} {offset : Offset}
    (hstart : ∀ c ∈ offsetText.head?, startsOffset c = true)
    (hoffset : Offset.read? offsetText = some offset) :
    readTimeFields? (f.text ++ offsetText) =
      if f.isValid = true then some (f, offset) else none := by
  have hlength := Date.dateLength_text h.date ('T' :: f.clockText ++ offsetText)
  have htake : (f.date.text ++ ('T' :: f.clockText ++ offsetText)).take 10 = f.date.text :=
    List.take_left' (Date.length_text h.date)
  have hdrop : (f.date.text ++ ('T' :: f.clockText ++ offsetText)).drop 10 =
      'T' :: f.clockText ++ offsetText :=
    List.drop_left' (Date.length_text h.date)
  -- the offset starts where the time of day ends
  have hclock : ∀ c ∈ f.clockText, (!startsOffset c) = true := fun c hc => by
    rw [startsOffset_of_mem_clockText hc]
    rfl
  have hend : offsetText.takeWhile (fun c => !startsOffset c) = [] ∧
      offsetText.dropWhile (fun c => !startsOffset c) = offsetText := by
    cases offsetText with
    | nil => exact ⟨rfl, rfl⟩
    | cons c cs => simp [hstart c rfl]
  unfold readTimeFields?
  rw [text_eq, List.append_assoc, hlength]
  dsimp only
  rw [htake, hdrop, Date.read?_text h.date]
  by_cases hdate : f.date.isValid = true
  · rw [if_pos hdate]
    simp [List.takeWhile_append_of_pos hclock, List.dropWhile_append_of_pos hclock, hend.1, hend.2,
      read?_clockText h, hoffset]
    cases f.isValid <;> rfl
  · have hinvalid : f.isValid ≠ true := fun hvalid => hdate (isValid_eq_true_iff.1 hvalid).1
    rw [if_neg hdate, if_neg hinvalid]
    rfl

/-- There are no other characters in a written time. -/
theorem mem_text {c : Char} (h : c ∈ f.text) :
    isDigit c = true ∨ c = '-' ∨ c = 'T' ∨ c = ':' ∨ c = '.' := by
  have hdigit {width n : Nat} (hc : c ∈ paddedText width n) : isDigit c = true :=
    isDigit_of_mem_paddedText hc
  rw [text_eq, List.mem_append, List.mem_cons, Date.text] at h
  simp only [List.mem_append, List.mem_cons] at h
  rcases h with ((h | rfl | h) | rfl | h) | rfl | h <;> grind [mem_clockText]

/-- Where there are no halves of characters none stands for the separator. -/
theorem fillSeparator_ofChars (cs : List Char) :
    fillSeparator (CodeText.ofChars cs) = CodeText.ofChars cs := by
  have hnone : [7, 8, 10].find? (fun place => (CodeText.ofChars cs)[place]?.any (·.isHalf)) =
      none := by
    rw [List.find?_eq_none]
    intro place _
    rw [CodeText.ofChars, List.getElem?_map]
    cases cs[place]? with
    | none => exact Bool.false_ne_true
    | some c => exact Bool.false_ne_true
  rw [fillSeparator, hnone]

/-- **The point in time of a written time** is as far from the fields as the offset says, if the
fields are valid. -/
theorem readUtcTime_text (h : f.Fits) {offsetText : List Char} {offset : Offset}
    (hstart : ∀ c ∈ offsetText.head?, startsOffset c = true)
    (hblank : ∀ c ∈ offsetText, Text.isBlank c = false)
    (hoffset : Offset.read? offsetText = some offset) :
    readUtcTime (CodeText.ofChars (f.text ++ offsetText)) =
      if f.isValid = true then
        (UtcTime.ofMicros? (f.micros - offset.micros)).elim (.error .outOfRange) .ok
      else .error (.malformed (CodeText.ofChars (f.text ++ offsetText))) := by
  have hread := readTimeFields?_text h hstart hoffset
  have hne : (CodeText.ofChars (f.text ++ offsetText)).isEmpty = false := by
    simp [CodeText.ofChars, text_eq]
  generalize htext : f.text ++ offsetText = text at hread hne ⊢
  -- nothing at the ends is blank, and there are no halves of characters
  have htrim : (CodeText.ofChars text).trim = CodeText.ofChars text := by
    refine Text.trimBy_eq_self fun p hp => ?_
    obtain ⟨c, hc, rfl⟩ := List.mem_map.1 hp
    rw [← htext] at hc
    rcases List.mem_append.1 hc with hc | hc
    · rcases mem_text hc with hdigit | rfl | rfl | rfl | rfl
      · exact isBlank_of_isDigit hdigit
      all_goals rfl
    · exact hblank c hc
  unfold readUtcTime
  simp only [htrim, hne, fillSeparator_ofChars, CodeText.chars?_ofChars, Option.bind_some, hread,
    Bool.false_eq_true, if_false]
  by_cases hvalid : f.isValid = true
  · rw [if_pos hvalid, if_pos hvalid]
    dsimp only
    cases UtcTime.ofMicros? (f.micros - offset.micros) with
    | some t => rfl
    | none => rfl
  · rw [if_neg hvalid, if_neg hvalid]

end TimeFields

/-! ### What is read is valid -/

/-- A day of a numbered week is a date that exists. -/
theorem Date.isValid_of_ofWeek? {year week day : Nat} {d : Date}
    (h : Date.ofWeek? year week day = some d) : d.isValid = true := by
  unfold Date.ofWeek? at h
  dsimp only at h
  split at h
  · split at h
    · rename_i hlimit
      obtain rfl := Option.some.inj h
      exact (Date.dayNumber_ofDayNumber hlimit).1
    · cases h
  · cases h

namespace DateText

theorem isValid_of_readDay? {year : Nat} {hyphens : Bool} {cs : List Char} {d : Date}
    (h : readDay? year hyphens cs = some d) : d.isValid = true := by
  -- whatever stands between the month and the day, the date is looked at behind the day
  have hday : ∀ month cs, ((takeNumber 2 cs).bind fun x =>
      if (x.2.isEmpty && Date.isValid { year, month, day := x.1 }) = true then
        some { year, month, day := x.1 } else none) = some d → d.isValid = true := by
    intro month cs h
    obtain ⟨_, -, h⟩ := Option.bind_eq_some_iff.1 h
    split at h
    · rename_i hvalid
      obtain rfl := Option.some.inj h
      exact (Bool.and_eq_true_iff.1 hvalid).2
    · cases h
  unfold readDay? at h
  obtain ⟨⟨month, cs⟩, -, h⟩ := Option.bind_eq_some_iff.1 h
  dsimp only at h
  split at h
  · exact hday _ _ h
  · cases h
  · exact hday _ _ h

theorem isValid_of_readWeek? {year : Nat} {hyphens : Bool} {cs : List Char} {d : Date}
    (h : readWeek? year hyphens cs = some d) : d.isValid = true := by
  have hday : ∀ week cs, ((takeNumber 1 cs).bind fun x =>
      if x.2.isEmpty = true then Date.ofWeek? year week x.1 else none) = some d →
        d.isValid = true := by
    intro week cs h
    obtain ⟨_, -, h⟩ := Option.bind_eq_some_iff.1 h
    split at h
    · exact Date.isValid_of_ofWeek? h
    · cases h
  unfold readWeek? at h
  obtain ⟨⟨week, cs⟩, -, h⟩ := Option.bind_eq_some_iff.1 h
  dsimp only at h
  split at h
  · exact Date.isValid_of_ofWeek? h
  · exact hday _ _ h
  · cases h
  · exact hday _ _ h

/-- **A date that is read exists.** -/
theorem isValid_of_read? {cs : List Char} {d : Date} (h : read? cs = some d) :
    d.isValid = true := by
  unfold read? at h
  obtain ⟨⟨year, cs⟩, -, h⟩ := Option.bind_eq_some_iff.1 h
  dsimp only at h
  split at h
  · exact isValid_of_readWeek? h
  · exact isValid_of_readDay? h

end DateText

/-- **An offset that is read is less than a day.** -/
theorem Offset.abs_lt_of_read? {cs : List Char} {offset : Offset}
    (h : Offset.read? cs = some offset) : |offset.micros| < microsPerDay := by
  have hnone : |(0 : Int)| < microsPerDay := by decide
  unfold Offset.read? at h
  split at h
  · obtain rfl := Option.some.inj h
    exact hnone
  · split at h
    · cases h
    · obtain rfl := Option.some.inj h
      exact hnone
  · split at h
    · dsimp only at h
      split at h
      · cases h
      · split at h
        · obtain rfl := Option.some.inj h
          exact hnone
        · split at h
          · rename_i hday
            obtain rfl := Option.some.inj h
            have hlt := Int.ofNat_lt.2 hday
            dsimp only
            split
            · rwa [abs_neg, Nat.abs_cast]
            · rwa [Nat.abs_cast]
          · cases h
    · cases h

/-- **Fields that are read are valid**, and less than a day from UTC. -/
theorem isValid_of_readTimeFields? {cs : List Char} {f : TimeFields} {offset : Offset}
    (h : readTimeFields? cs = some (f, offset)) :
    f.isValid = true ∧ |offset.micros| < microsPerDay := by
  unfold readTimeFields? at h
  obtain ⟨date, hdate, h⟩ := Option.bind_eq_some_iff.1 h
  split at h
  · -- a date alone is midnight
    obtain ⟨rfl, rfl⟩ := Prod.mk.inj (Option.some.inj h)
    have hvalid := DateText.isValid_of_read? hdate
    refine ⟨TimeFields.isValid_eq_true_iff.2 ⟨hvalid, ?_⟩, by decide⟩
    simp
  · obtain ⟨clock, -, h⟩ := Option.bind_eq_some_iff.1 h
    obtain ⟨offset', hoffset, h⟩ := Option.bind_eq_some_iff.1 h
    dsimp only at h
    split at h
    · cases h
    · rename_i hvalid
      obtain ⟨rfl, rfl⟩ := Prod.mk.inj (Option.some.inj h)
      have hboth := Bool.or_eq_false_iff.1 (Bool.not_eq_true _ ▸ hvalid)
      exact ⟨by simpa using hboth.2, Offset.abs_lt_of_read? hoffset⟩

/-- A point in time is out of range just if it was read with its offset and the calendar does not
reach it. -/
theorem readUtcTime_eq_outOfRange_iff {text : CodeText} :
    readUtcTime text = .error .outOfRange ↔
      ∃ f offset, (fillSeparator text.trim).chars?.bind readTimeFields? = some (f, offset) ∧
        UtcTime.ofMicros? (f.micros - offset.micros) = none := by
  have hempty : (fillSeparator []).chars?.bind readTimeFields? = none := by decide
  unfold readUtcTime
  dsimp only
  split
  · rename_i hnil
    rw [List.isEmpty_iff.1 hnil, hempty]
    simp
  · cases hread : (fillSeparator text.trim).chars?.bind readTimeFields? with
    | none => simp
    | some read =>
      obtain ⟨f, offset⟩ := read
      dsimp only
      cases htime : UtcTime.ofMicros? (f.micros - offset.micros) with
      | none => simpa using htime
      | some t => simp [htime]

/-- A point in time is that of its microseconds. -/
theorem UtcTime.ofMicros?_micros (t : UtcTime) : UtcTime.ofMicros? t.micros = some t := by
  have hrange : (0 : Int) ≤ t.micros ∧ (t.micros : Int) < microsLimit := by
    have hlt := t.inRange
    omega
  unfold ofMicros?
  rw [dif_pos hrange]
  simp only [Int.toNat_natCast]

/-- **A point in time is read back from its text.** -/
theorem readUtcTime_iso (t : UtcTime) : readUtcTime (CodeText.ofString t.iso) = .ok t := by
  obtain ⟨hvalid, hmicros⟩ := TimeFields.micros_ofMicros t.inRange
  have hutc : Offset.read? "+00:00".toList = some ⟨0⟩ := by decide
  have hstart : ∀ c ∈ "+00:00".toList.head?, startsOffset c = true := by simp [startsOffset]
  have hblank : ∀ c ∈ "+00:00".toList, Text.isBlank c = false := by
    simp [Text.isBlank, Text.isSpace]
  have hread := TimeFields.readUtcTime_text (TimeFields.fits hvalid) hstart hblank hutc
  rw [if_pos hvalid, hmicros, Int.sub_zero, UtcTime.ofMicros?_micros] at hread
  rw [UtcTime.iso, CodeText.ofString, String.toList_ofList]
  exact hread

end MetricIntake
