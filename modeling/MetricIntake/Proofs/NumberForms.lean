import MetricIntake.Proofs.AcceptedNumbers
import MetricIntake.Proofs.Judgements
import MetricIntake.Proofs.ReplyBodies

/-!
# Numbers and their texts

A value may be sent as a JSON number or as a text with the same characters.  The number goes through
a whole number or a double to the text that is shown of it, and the text is taken as it is; both are
read as the same number, or neither of them is one (`agree_of_spellsNumber`).  So the samples of two
replies that differ in this only come to the same: `ask_of_numberForms`.
-/

namespace MetricIntake

variable {ω : Type}

/-! ### Texts of one number -/

/-- Two texts are read alike: both are refused, or both are finite numbers of the same value. -/
inductive Agree : Except NumberError Double → Except NumberError Double → Prop
  | refused (e e' : NumberError) : Agree (.error e) (.error e')
  | accepted {x y : Double} (hfinite : x.isFinite = true) (hvalue : x.units? = y.units?) :
      Agree (.ok x) (.ok y)

namespace Decimal

variable {d e : Decimal}

theorem toDouble_ne_nan (d : Decimal) : d.toDouble ≠ .nan := by
  rw [toDouble_eq_ofRatio]
  unfold Double.ofRatio
  dsimp only
  split <;> exact Double.noConfusion

theorem toDouble_of_digits_eq_zero (h : d.digits = 0) : d.toDouble = .finite d.negative .zero := by
  rw [toDouble, if_pos h]

/-- Decimals of the same number have the same size, and the same sign unless they are zeros. -/
theorem same_of_value_eq (h : d.value = e.value) :
    d.size = e.size ∧ (d.negative = e.negative ∨ d.digits = 0 ∧ e.digits = 0) := by
  have hsize : d.size = e.size := by rw [← abs_value, ← abs_value, h]
  refine ⟨hsize, ?_⟩
  have hzero {d : Decimal} (h : d.size = 0) : d.digits = 0 := by
    have hpow : (10 : ℚ) ^ d.exponent ≠ 0 := zpow_ne_zero _ (by norm_num)
    exact Nat.cast_eq_zero.1 ((mul_eq_zero.1 h).resolve_right hpow)
  have hvalue {d : Decimal} : d.value = (if d.negative then -1 else 1) * d.size := mul_assoc _ _ _
  rcases Bool.eq_or_eq_not d.negative e.negative with hsign | hsign
  · exact .inl hsign
  · -- a number that is its own negative is zero
    right
    have hd : d.size = 0 := by
      rw [hvalue, hvalue, hsign, ← hsize] at h
      cases he : e.negative <;> simp [he] at h <;> linarith
    exact ⟨hzero hd, hzero (hsize ▸ hd)⟩

/-- Decimals of the same number have doubles of the same value. -/
theorem units?_toDouble (h : d.value = e.value) : d.toDouble.units? = e.toDouble.units? := by
  obtain ⟨hsize, hsign | ⟨hd, he⟩⟩ := same_of_value_eq h
  · rw [toDouble_congr hsign hsize]
  · rw [toDouble_of_digits_eq_zero hd, toDouble_of_digits_eq_zero he]
    cases d.negative <;> cases e.negative <;> rfl

end Decimal

/-- **Numerals of the same number are read alike.** -/
theorem agree_of_isNumeral {text text' : CodeText} {d e : Decimal} (h : text.IsNumeral d)
    (h' : text'.IsNumeral e) (hvalue : d.value = e.value) :
    Agree (readNumber text) (readNumber text') := by
  obtain ⟨hsize, -⟩ := Decimal.same_of_value_eq hvalue
  rw [readNumber_of_isNumeral h, readNumber_of_isNumeral h']
  by_cases hfinite : d.toDouble.isFinite = true
  · have hfinite' : e.toDouble.isFinite = true := by
      rw [Decimal.isFinite_toDouble_iff] at hfinite ⊢
      rwa [← hsize]
    rw [if_pos hfinite, if_pos hfinite']
    exact .accepted hfinite (Decimal.units?_toDouble hvalue)
  · have hfinite' : ¬ e.toDouble.isFinite = true := by
      rw [Decimal.isFinite_toDouble_iff] at hfinite ⊢
      rwa [← hsize]
    rw [if_neg hfinite, if_neg hfinite']
    exact .refused _ _

/-- There is nothing blank in a numeral. -/
theorem Numeral.isBlank_of_writes {text : List Char} {d : Decimal} (h : Writes text d) :
    ∀ c ∈ text, Text.isBlank c = false := by
  have hsign {sign : List Char} {negative : Bool} (h : IsSign sign negative) :
      ∀ c ∈ sign, Text.isBlank c = false := by
    cases h with
    | none => exact List.forall_mem_nil _
    | plus => exact List.forall_mem_singleton.2 rfl
    | minus => exact List.forall_mem_singleton.2 rfl
  have hdigits {ds : List Char} (h : ∀ c ∈ ds, isDigit c = true) :
      ∀ c ∈ ds, Text.isBlank c = false := fun c hc => isBlank_of_isDigit (h c hc)
  cases h with
  | parts hs hpoint hwhole hfraction hne hexponent =>
    refine List.forall_mem_append.2 ⟨hsign hs, List.forall_mem_append.2 ⟨?_, ?_⟩⟩
    · cases hpoint with
      | whole => exact hdigits hwhole
      | point =>
        exact List.forall_mem_append.2
          ⟨hdigits hwhole, List.forall_mem_cons.2 ⟨rfl, hdigits hfraction⟩⟩
    · cases hexponent with
      | none => simp
      | letter hletter hs hne hds =>
        refine List.forall_mem_cons.2 ⟨?_, List.forall_mem_append.2 ⟨hsign hs, hdigits hds⟩⟩
        rcases hletter with rfl | rfl <;> rfl

/-- A numeral is one as a text. -/
theorem CodeText.isNumeral_of_writes {cs : List Char} {d : Decimal} (h : Numeral.Writes cs d) :
    (ofChars cs).IsNumeral d := by
  refine ⟨cs, trim_eq_iff.1 (Text.trimBy_eq_self fun p hp => ?_), h⟩
  obtain ⟨c, hc, rfl⟩ := List.mem_map.1 hp
  exact Numeral.isBlank_of_writes h c hc

/-! ### Literals -/

namespace Json

/-- The characters of a whole number are a numeral for it. -/
theorem writes_whole (negative : Bool) {digits : List Char}
    (h : ∀ c ∈ digits, isDigit c = true) (hne : digits ≠ []) :
    Numeral.Writes (signText negative ++ digits)
      { negative, digits := digitsValue digits, exponent := 0 } := by
  have hwrites := Numeral.Writes.parts (Numeral.isSign_signText negative) (.whole digits) h
    (List.forall_mem_nil _) (by simpa using hne) .none
  simpa using hwrites

theorem value_whole (negative : Bool) (n : Nat) :
    Decimal.value { negative, digits := n, exponent := 0 } =
      ((if negative then -(n : Int) else n : Int) : ℚ) := by
  cases negative <;> simp [Decimal.value]

/-- The characters of a number with a fraction or an exponent are a numeral. -/
theorem writes_double (negative : Bool) {digits point fraction exponent : List Char} {e : Int}
    (hdigits : IsPlainWhole digits) (hpoint : IsFraction point fraction)
    (hexponent : Numeral.IsExponent exponent e) :
    Numeral.Writes (signText negative ++ (digits ++ (point ++ exponent)))
      { negative, digits := digitsValue (digits ++ fraction)
        exponent := e - fraction.length } := by
  obtain ⟨c, ds, rfl, hc, hds⟩ := exists_digit_of_isPlainWhole hdigits
  have hwhole : ∀ d ∈ c :: ds, isDigit d = true := List.forall_mem_cons.2 ⟨hc, hds⟩
  have hsign := Numeral.isSign_signText negative
  rw [← List.append_assoc (c :: ds)]
  cases hpoint with
  | none =>
    simpa using Numeral.Writes.parts hsign (.whole (c :: ds)) hwhole (by simp) (by simp) hexponent
  | point hne hfraction => exact .parts hsign (.point _ _) hwhole hfraction (by simp) hexponent

/-- **What is shown of a number and the literal that spells it are read alike.** -/
theorem agree_of_spellsNumber {literal : List Char} {v : Json} (h : SpellsNumber literal v) :
    Agree (readNumber (.ofChars v.showInner)) (readNumber (.ofChars literal)) := by
  cases h with
  | whole negative hdigits hlimit =>
    rename_i digits
    obtain ⟨c, ds, rfl, hc, hds⟩ := exists_digit_of_isPlainWhole hdigits
    have hliteral := writes_whole negative (List.forall_mem_cons.2 ⟨hc, hds⟩)
      (List.cons_ne_nil c ds)
    generalize hn : (if negative then -(digitsValue (c :: ds) : Int) else digitsValue (c :: ds)) = n
    -- what is shown is a numeral too, with a sign and without zeros of its own
    have hshown := writes_whole (n < 0) (isDigit_of_mem_wholeText n.natAbs)
      (wholeText_ne_nil n.natAbs)
    refine agree_of_isNumeral (CodeText.isNumeral_of_writes hshown)
      (CodeText.isNumeral_of_writes hliteral) ?_
    have hsign : (if decide (n < 0) = true then -(n.natAbs : Int) else n.natAbs) = n := by
      by_cases hneg : n < 0
      · rw [if_pos (decide_eq_true hneg)]
        omega
      · rw [if_neg (by simpa using hneg)]
        omega
    rw [value_whole, value_whole, digitsValue_wholeText, hn, hsign]
  | double negative hdigits hpoint hexponent hne =>
    rename_i digits point fraction exponent e
    have hliteral := CodeText.isNumeral_of_writes
      (writes_double negative hdigits hpoint hexponent)
    generalize Decimal.mk negative (digitsValue (digits ++ fraction)) (e - fraction.length) = d
      at hliteral ⊢
    show Agree (readNumber (.ofChars d.toDouble.displayText)) _
    rw [readNumber_of_isNumeral hliteral]
    cases hx : d.toDouble with
    | nan => exact absurd hx (Decimal.toDouble_ne_nan d)
    | infinite negative =>
      -- the literal is too large, and what is shown is a word
      rw [if_neg (by simp [Double.isFinite])]
      cases negative
      · exact .refused (.notANumber "inf") _
      · exact .refused (.notANumber "-inf") _
    | finite negative m =>
      obtain ⟨-, d', -, hshown, -, hd'⟩ := Double.writes_plainText negative m
      rw [readNumber_of_isNumeral (CodeText.isNumeral_of_writes hshown), hd']
      exact .accepted rfl rfl

/-! ### Replies that differ in a value -/

variable {front back : List (CodeText × Json)}

/-- A value does not matter to the name and the time of its object. -/
theorem last_insert (front back : List (CodeText × Json)) (v : Json) :
    last "name" (front ++ (CodeText.ofString "value", v) :: back) = last "name" (front ++ back) ∧
      last "updatedAt" (front ++ (CodeText.ofString "value", v) :: back) =
        last "updatedAt" (front ++ back) := by
  have hname : CodeText.ofString "value" ≠ CodeText.ofString "name" := by decide
  have htime : CodeText.ofString "value" ≠ CodeText.ofString "updatedAt" := by decide
  simp [last, Named.lookup_append, Named.lookup, hname, htime]

/-- The last value of a name is the one behind which the name does not stand again. -/
theorem last_of_back {name : String} (h : last name back = none) (v : Json) :
    last name (front ++ (CodeText.ofString name, v) :: back) = some v := by
  rw [last] at h
  simp [last, Named.lookup_append, Named.lookup, h]

/-- A value does not matter to whether its object is refused. -/
theorem isRefused_insert (v : Json) :
    (Json.object (front ++ (CodeText.ofString "value", v) :: back)).IsRefused ↔
      (Json.object (front ++ back)).IsRefused := by
  obtain ⟨hname, htime⟩ := last_insert front back v
  rw [isRefused_object_iff, isRefused_object_iff, hname, htime]

/-- The sample of members with a value. -/
theorem described_insert (name : String) (v : Json) (hback : last "value" back = none) :
    Sample.described name (front ++ (CodeText.ofString "value", v) :: back) =
      { name := textOr name (last "name" (front ++ back)), value := valueText (some v)
        updatedAt := textOr "" (last "updatedAt" (front ++ back)) } := by
  obtain ⟨hname, htime⟩ := last_insert front back v
  rw [Sample.described, hname, htime, last_of_back hback]

theorem valueText_of_spellsNumber {literal : List Char} {v : Json} (h : SpellsNumber literal v) :
    valueText (some v) = .ofChars v.showInner := by
  cases h <;> rfl

end Json

/-! ### What samples of one number come to -/

/-- An intake makes the same of two samples: readings of the same time and value, or nothing, with
one request without data more; or it raises for both, if their time is off the calendar. -/
inductive Intake.Alike (k : Intake ω) (source : String) (s s' : Sample) : Prop
  | accepted {reading reading' : Reading}
      (h : k.readSample s source = (.ok (some reading), k))
      (h' : k.readSample s' source = (.ok (some reading'), k))
      (htime : reading.time = reading'.time)
      (hfinite : reading.value.isFinite = true ∧ reading.rawValue.isFinite = true)
      (hvalue : reading.value.units? = reading'.value.units? ∧
        reading.rawValue.units? = reading'.rawValue.units?)
  | rejected {after after' : Intake ω} {warning warning' : LogRecord}
      (h : k.readSample s source = (.ok none, after)) (hmisses : k.Misses after warning)
      (h' : k.readSample s' source = (.ok none, after')) (hmisses' : k.Misses after' warning')
  | offCalendar {f : TimeFields} {offset : Offset} (htime : OffCalendar s.updatedAt f offset)
      (h : k.readSample s source = (.error (.fault .dateOutOfRange), k))
      (h' : k.readSample s' source = (.error (.fault .dateOutOfRange), k))

/-- Two judgements agree: both accept, the same time and value, or both reject, or both raise. -/
inductive Judgement.Agree : Judgement → Judgement → Prop
  | accepted {reading reading' : Reading} (htime : reading.time = reading'.time)
      (hfinite : reading.value.isFinite = true ∧ reading.rawValue.isFinite = true)
      (hvalue : reading.value.units? = reading'.value.units? ∧
        reading.rawValue.units? = reading'.rawValue.units?) :
      Agree (.accepted reading) (.accepted reading')
  | rejected (why why' : Rejection) : Agree (.rejected why) (.rejected why')
  | fault (f : Fault) : Agree (.fault f) (.fault f)

section Samples

variable {s s' : Sample}

/-- **Samples of one time whose values are read alike** are judged alike. -/
theorem Sample.agree_judge (htime : s.updatedAt = s'.updatedAt)
    (hvalue : Agree (readNumber s.value) (readNumber s'.value)) : s.judge.Agree s'.judge := by
  unfold judge
  rw [← htime]
  cases readUtcTime s.updatedAt with
  | error e =>
    cases e with
    | outOfRange => exact .fault _
    | _ => exact .rejected _ _
  | ok time =>
    generalize readNumber s.value = x, readNumber s'.value = y at hvalue
    cases hvalue with
    | refused e e' => exact .rejected _ _
    | accepted hfinite hunits => exact .accepted rfl ⟨hfinite, hfinite⟩ ⟨hunits, hunits⟩

/-- Samples that are judged alike come to the same. -/
theorem Intake.alike_of_agree (h : s.judge.Agree s'.judge) (source : String) (k : Intake ω) :
    k.Alike source s s' := by
  generalize hjudge : s.judge = j, hjudge' : s'.judge = j' at h
  cases h with
  | accepted htime hfinite hvalue =>
    exact .accepted (by rw [readSample, hjudge]) (by rw [readSample, hjudge']) htime hfinite hvalue
  | rejected why why' =>
    exact .rejected (by rw [readSample, hjudge]) (k.misses_count _) (by rw [readSample, hjudge'])
      (k.misses_count _)
  | fault f =>
    obtain ⟨rfl, htime⟩ := Sample.judge_eq_fault_iff.1 hjudge
    obtain ⟨f, offset, hoff⟩ := readUtcTime_eq_outOfRange_iff_offCalendar.1 htime
    exact .offCalendar hoff (by rw [readSample, hjudge]) (by rw [readSample, hjudge'])

end Samples

namespace Endpoint

open Json

/-- The reply whose object has a value gives the sample of it. -/
theorem ask_of_value (network : Network ω) (e : Endpoint) (name : String) (outside : ω)
    {text : List Char} {front back : List (CodeText × Json)} {v : Json}
    (haddress : addressFault? (e.request name).url = none)
    (htext : SpellsDocument network.depth text
      (.object (front ++ (CodeText.ofString "value", v) :: back)))
    (hbody : (network.send (e.request name) outside).1.outcome = .body (Utf8.encode text))
    (hfits : ¬ (Json.object (front ++ back)).IsRefused) :
    (e.ask network name outside).1.outcome =
      .ok (some (.described name (front ++ (CodeText.ofString "value", v) :: back))) := by
  have hsomething :
      ¬ (Json.object (front ++ (CodeText.ofString "value", v) :: back)).IsNothing := by
    rw [← isEmptyValue_eq_true_iff]
    simp [isEmptyValue]
  obtain ⟨-, -, hsample⟩ := ask_of_spellsDocument network e name outside haddress htext hbody
  obtain ⟨members, hmembers, houtcome⟩ := hsample hsomething (mt (isRefused_insert v).1 hfits)
  rwa [← Json.object.inj hmembers] at houtcome

/-- A reply of a value and a time. -/
theorem spellsDocument_reply {spelled time : List Char} {v : Json} (hvalue : Spells 999 spelled v)
    (htime : time.all isBare = true) :
    SpellsDocument { levels := 1000 }
      ("\x7b\"value\":".toList ++ (spelled ++ (",\"updatedAt\":\"".toList ++
        (time ++ ['"', '\x7d']))))
      (.object [("value", v), ("updatedAt", .text (.ofChars time))]) := by
  have hgap : IsGap [] := by simp [IsGap]
  have hname : SpellsChars ['v', 'a', 'l', 'u', 'e'] "value" := spellsChars_self (by decide)
  have hfield : SpellsChars ['u', 'p', 'd', 'a', 't', 'e', 'd', 'A', 't'] "updatedAt" :=
    spellsChars_self (by decide)
  have hfirst := SpellsMember.pair hname hgap hgap hvalue
  have hlast := SpellsMember.pair hfield hgap hgap
    ((SpellsLeaf.text (spellsChars_self htime)).spells 999)
  have hobject : Spells 1000 _ _ := .object hgap (.more hfirst hgap hgap (.last hlast hgap))
  have hdocument : SpellsDocument { levels := 1000 } _ _ := .value hgap hobject hgap
  simpa using hdocument

/-- A text is a time that fits. -/
theorem not_isRefused_time (time : CodeText) :
    ¬ (Json.object ([] ++ [(CodeText.ofString "updatedAt", Json.text time)])).IsRefused := by
  rw [isRefused_object_iff]
  rintro (⟨v, hv, -⟩ | ⟨v, hv, hmisfit⟩)
  · cases hv
  · obtain rfl : .text time = v := Option.some.inj hv
    exact hmisfit.notText _ rfl

/-- **A number and its text mean the same.**  Of two replies that differ only in that the value is
sent as a number or as a text with the same characters, both give samples, of one name and one time,
and whatever is made of the one is made of the other: readings of the same value, or nothing, unless
their time is off the calendar. -/
theorem ask_of_numberForms {ω' : Type} (network network' : Network ω) (e : Endpoint) (name : String)
    (outside outside' : ω) {literal text text' : List Char} {v : Json}
    {front back : List (CodeText × Json)}
    (haddress : addressFault? (e.request name).url = none)
    (hliteral : SpellsNumber literal v) (hback : last "value" back = none)
    (hfits : ¬ (Json.object (front ++ back)).IsRefused)
    (htext : SpellsDocument network.depth text
      (.object (front ++ (CodeText.ofString "value", v) :: back)))
    (htext' : SpellsDocument network'.depth text'
      (.object (front ++ (CodeText.ofString "value", .text (.ofChars literal)) :: back)))
    (hbody : (network.send (e.request name) outside).1.outcome = .body (Utf8.encode text))
    (hbody' : (network'.send (e.request name) outside').1.outcome = .body (Utf8.encode text')) :
    ∃ s s', (e.ask network name outside).1.outcome = .ok (some s) ∧
      (e.ask network' name outside').1.outcome = .ok (some s') ∧ s.name = s'.name ∧
      s.updatedAt = s'.updatedAt ∧
      ∀ (source : String) (k : Intake ω'), k.Alike source s s' := by
  refine ⟨_, _, ask_of_value network e name outside haddress htext hbody hfits,
    ask_of_value network' e name outside' haddress htext' hbody' hfits, ?_⟩
  rw [described_insert name _ hback, described_insert name _ hback]
  refine ⟨rfl, rfl, Intake.alike_of_agree (Sample.agree_judge rfl ?_)⟩
  dsimp only
  rw [valueText_of_spellsNumber hliteral]
  exact agree_of_spellsNumber hliteral

/-- A service that always replies with a value and a time gives the sample of them. -/
theorem ask_of_reply {spelled time : List Char} {v : Json} (hvalue : Spells 999 spelled v)
    (htime : time.all isBare = true) :
    (ask (.constant (.body (Utf8.encode ("\x7b\"value\":".toList ++ (spelled ++
        (",\"updatedAt\":\"".toList ++ (time ++ ['"', '\x7d']))))))) (.ofAddress "https://h") "m"
          ()).1.outcome =
      .ok (some (.described "m" [("value", v), ("updatedAt", .text (.ofChars time))])) := by
  have haddress : addressFault? ((Endpoint.ofAddress "https://h").request "m").url = none := by
    decide +kernel
  -- nothing stands before the value
  have htext : SpellsDocument { levels := 1000 } _ (.object ([] ++ (CodeText.ofString "value", v) ::
      [(CodeText.ofString "updatedAt", .text (.ofChars time))])) :=
    spellsDocument_reply hvalue htime
  exact ask_of_value (.constant _) _ "m" () haddress htext rfl (not_isRefused_time _)

/-- Ten, written with an exponent. -/
theorem ask_of_ten :
    ∃ s s', (ask (.constant (.body (Utf8.encode
          "\x7b\"value\":1e1,\"updatedAt\":\"2026-01-20\"\x7d".toList)))
        (.ofAddress "https://h") "m" ()).1.outcome = .ok (some s) ∧
      (ask (.constant (.body (Utf8.encode
          "\x7b\"value\":\"1e1\",\"updatedAt\":\"2026-01-20\"\x7d".toList)))
        (.ofAddress "https://h") "m" ()).1.outcome = .ok (some s') ∧ s.name = s'.name ∧
      s.updatedAt = s'.updatedAt ∧ ∀ (source : String) (k : Intake Unit), k.Alike source s s' := by
  have haddress : addressFault? ((Endpoint.ofAddress "https://h").request "m").url = none := by
    decide +kernel
  have hone : IsPlainWhole ['1'] := .digits rfl (by decide) (by simp)
  have hexponent : Numeral.IsExponent ['e', '1'] _ :=
    .letter (.inl rfl) .none (by simp) (by simp [isDigit])
  obtain ⟨v, hten⟩ : ∃ v, SpellsNumber ['1', 'e', '1'] v :=
    ⟨_, .double false hone .none hexponent (by simp)⟩
  have htext : SpellsChars ['1', 'e', '1'] (.ofChars ['1', 'e', '1']) :=
    spellsChars_self (by decide)
  have htime : "2026-01-20".toList.all isBare = true := by decide
  exact ask_of_numberForms _ _ _ "m" () () haddress hten rfl (not_isRefused_time _)
    (spellsDocument_reply ((SpellsLeaf.number hten).spells 999) htime)
    (spellsDocument_reply ((SpellsLeaf.text htext).spells 999) htime) rfl rfl

/-- One, one minute before the calendar starts: nothing comes of either form. -/
theorem ask_before_calendar :
    ∃ s s', (ask (.constant (.body (Utf8.encode
          "\x7b\"value\":1,\"updatedAt\":\"0001-01-01T00:00:00+00:01\"\x7d".toList)))
        (.ofAddress "https://h") "m" ()).1.outcome = .ok (some s) ∧
      (ask (.constant (.body (Utf8.encode
          "\x7b\"value\":\"1\",\"updatedAt\":\"0001-01-01T00:00:00+00:01\"\x7d".toList)))
        (.ofAddress "https://h") "m" ()).1.outcome = .ok (some s') ∧
      (Intake.unused.readSample s "r").1 = .error (.fault .dateOutOfRange) ∧
      (Intake.unused.readSample s' "r").1 = .error (.fault .dateOutOfRange) := by
  have hone : SpellsNumber ['1'] (.whole 1) :=
    .whole false (.digits rfl (by decide) (by simp)) (by decide)
  have htext : SpellsChars ['1'] "1" := spellsChars_self (by decide)
  have htime : "0001-01-01T00:00:00+00:01".toList.all isBare = true := by decide
  have hnumber := ask_of_reply ((SpellsLeaf.number hone).spells 999) htime
  have hform := ask_of_reply ((SpellsLeaf.text htext).spells 999) htime
  exact ⟨_, _, hnumber, hform, by decide, by decide⟩

end Endpoint

end MetricIntake
