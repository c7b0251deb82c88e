import MetricIntake.Double.Display
import MetricIntake.Proofs.NumeralGrammar
import MetricIntake.Proofs.Rounding
import Mathlib.Data.List.Induction
import Mathlib.Tactic.IntervalCases

/-!
# Numbers in text

`digitsValue` undoes `wholeText`, and `Numeral.read?` reads what `Decimal.positional` writes as a
decimal of the same sign and size (`Numeral.read?_positional`).  With `Double.toDouble_decimal` it
follows that `readNumber` undoes `Double.plain` for finite doubles (`readNumber_plain`), but for the
sign of zero, and takes nothing else that `Double.plain` writes (`finite_of_readNumber_plain`).
-/

namespace MetricIntake

/-! ### Digits -/

/-- The value of digits in front of others. -/
theorem digitsValue_append (cs ds : List Char) :
    digitsValue (cs ++ ds) = digitsValue cs * 10 ^ ds.length + digitsValue ds := by
  induction ds using List.reverseRecOn with
  | nil => simp [digitsValue, joinPlaces_eq, placeValue]
  | append_singleton ds c ih =>
    rw [← List.append_assoc, digitsValue_concat, digitsValue_concat, ih, List.length_append,
      List.length_singleton, pow_succ]
    ring

/-- Zeros have no value. -/
theorem digitsValue_replicate_zero (n : Nat) : digitsValue (List.replicate n '0') = 0 := by
  induction n with
  | zero => rfl
  | succ n ih =>
    have hzero : digitValue '0' = 0 := rfl
    rw [List.replicate_succ', digitsValue_concat, ih, hzero]

theorem isDigit_of_mem_zeros (n : Nat) : ∀ c ∈ List.replicate n '0', isDigit c = true := by
  intro c hc
  rw [List.eq_of_mem_replicate hc]
  rfl

/-- A digit of a whole number below ten. -/
theorem isDigit_digitChar {n : Nat} (h : n < 10) : isDigit (Nat.digitChar n) = true := by
  interval_cases n <;> rfl

theorem digitValue_digitChar {n : Nat} (h : n < 10) : digitValue (Nat.digitChar n) = n := by
  interval_cases n <;> rfl

/-- The last digit of a whole number, behind those of the tens. -/
theorem wholeText_of_ten_le {n : Nat} (h : 10 ≤ n) :
    wholeText n = wholeText (n / 10) ++ [Nat.digitChar (n % 10)] :=
  Nat.toDigits_of_base_le (by decide) h

theorem wholeText_of_lt_ten {n : Nat} (h : n < 10) : wholeText n = [Nat.digitChar n] :=
  Nat.toDigits_of_lt_base h

/-- A whole number is written with at least one digit. -/
theorem wholeText_ne_nil (n : Nat) : wholeText n ≠ [] :=
  List.ne_nil_of_length_pos Nat.length_toDigits_pos

/-- A whole number is written in digits. -/
theorem isDigit_of_mem_wholeText (n : Nat) : ∀ c ∈ wholeText n, isDigit c = true := by
  induction n using Nat.strong_induction_on with
  | _ n ih =>
    intro c hc
    by_cases h : 10 ≤ n
    · rw [wholeText_of_ten_le h, List.mem_append, List.mem_singleton] at hc
      rcases hc with hc | rfl
      · exact ih (n / 10) (by omega) c hc
      · exact isDigit_digitChar (Nat.mod_lt _ (by decide))
    · rw [wholeText_of_lt_ten (by omega), List.mem_singleton] at hc
      subst hc
      exact isDigit_digitChar (by omega)

/-- **The digits of a whole number have its value.** -/
theorem digitsValue_wholeText (n : Nat) : digitsValue (wholeText n) = n := by
  induction n using Nat.strong_induction_on with
  | _ n ih =>
    by_cases h : 10 ≤ n
    · rw [wholeText_of_ten_le h, digitsValue_concat, ih (n / 10) (by omega),
        digitValue_digitChar (Nat.mod_lt _ (by decide))]
      omega
    · have hlt : n < 10 := by omega
      have hnone : digitsValue [] = 0 := rfl
      rw [wholeText_of_lt_ten hlt, ← List.nil_append [_], digitsValue_concat,
        digitValue_digitChar hlt, hnone, Nat.zero_mul, Nat.zero_add]

/-! ### Numbers of a width -/

theorem length_paddedText {width n : Nat} (hpos : 0 < width) (h : n < 10 ^ width) :
    (paddedText width n).length = width := by
  have hle : (wholeText n).length ≤ width := (Nat.length_toDigits_le_iff (by decide) hpos).2 h
  rw [paddedText, List.length_append, List.length_replicate]
  omega

theorem isDigit_of_mem_paddedText {width n : Nat} {c : Char} (h : c ∈ paddedText width n) :
    isDigit c = true :=
  (List.mem_append.1 h).elim (isDigit_of_mem_zeros _ c) (isDigit_of_mem_wholeText n c)

/-- Zeros in front do not change a number. -/
theorem digitsValue_paddedText (width n : Nat) : digitsValue (paddedText width n) = n := by
  rw [paddedText, digitsValue_append, digitsValue_replicate_zero, digitsValue_wholeText,
    Nat.zero_mul, Nat.zero_add]

/-! ### Numbers without an exponent -/

/-- A sign is written for itself. -/
theorem Numeral.isSign_signText (negative : Bool) : IsSign (signText negative) negative := by
  cases negative with
  | false => exact .none
  | true => exact .minus

namespace Decimal

/-- The forms of a number without an exponent: its digits and zeros behind them, the point between
its digits, or the point in front of its digits and zeros between. -/
theorem positional_cases (d : Decimal) :
    (0 ≤ d.exponent ∧ ∃ zeros, d.positional = wholeText d.digits ++ List.replicate zeros '0' ∧
        (d.digits ≠ 0 → zeros = d.exponent.toNat)) ∨
      (∃ whole fraction, whole ≠ [] ∧ fraction ≠ [] ∧ wholeText d.digits = whole ++ fraction ∧
        d.exponent = -fraction.length ∧ d.positional = whole ++ '.' :: fraction) ∨
      ∃ zeros, d.exponent = -(List.replicate zeros '0' ++ wholeText d.digits).length ∧
        d.positional = ['0'] ++ '.' :: (List.replicate zeros '0' ++ wholeText d.digits) := by
  unfold positional
  dsimp only
  split
  · rename_i hplaces
    refine .inl ⟨by omega, ?_⟩
    split
    · rename_i h0
      exact ⟨0, (List.append_nil _).symm, fun hne => absurd h0 hne⟩
    · exact ⟨_, rfl, fun _ => rfl⟩
  · rename_i hplaces
    split
    · rename_i hlt
      refine .inr (.inl ⟨_, _, ?_, ?_, (List.take_append_drop _ _).symm, ?_, rfl⟩)
      · rw [← List.length_pos_iff, List.length_take]
        omega
      · rw [← List.length_pos_iff, List.length_drop]
        omega
      · rw [List.length_drop]
        omega
    · refine .inr (.inr ⟨_, ?_, rfl⟩)
      rw [List.length_append, List.length_replicate]
      omega

/-- Besides digits there is at most a point. -/
theorem isDigit_or_of_mem_positional {d : Decimal} {c : Char} (h : c ∈ d.positional) :
    isDigit c = true ∨ c = '.' := by
  have hds := isDigit_of_mem_wholeText d.digits
  obtain ⟨-, zeros, htext, -⟩ | ⟨whole, fraction, -, -, hparts, -, htext⟩ | ⟨zeros, -, htext⟩ :=
    d.positional_cases
  · rw [htext, List.mem_append] at h
    exact .inl (h.elim (hds c) (isDigit_of_mem_zeros _ c))
  · rw [hparts] at hds
    rw [htext] at h
    rcases List.mem_append.1 h with h | h
    · exact .inl (hds c (List.mem_append_left _ h))
    · rcases List.mem_cons.1 h with rfl | h
      · exact .inr rfl
      · exact .inl (hds c (List.mem_append_right _ h))
  · rw [htext] at h
    rcases List.mem_append.1 h with h | h
    · exact .inl (isDigit_of_mem_zeros 1 c h)
    · rcases List.mem_cons.1 h with rfl | h
      · exact .inr rfl
      · exact .inl ((List.mem_append.1 h).elim (isDigit_of_mem_zeros _ c) (hds c))

/-- A whole number is written in digits that have its size. -/
theorem positional_of_nonneg {d : Decimal} (h : 0 ≤ d.exponent) :
    d.positional ≠ [] ∧ (∀ c ∈ d.positional, isDigit c = true) ∧
      (digitsValue d.positional : ℚ) = d.size := by
  have hne := wholeText_ne_nil d.digits
  obtain ⟨-, zeros, htext, hzeros⟩ | ⟨_, fraction, -, hfraction, -, hexp, -⟩ | ⟨zeros, hexp, -⟩ :=
    d.positional_cases
  · refine ⟨by simp [htext, hne], fun c hc => ?_, ?_⟩
    · rw [htext] at hc
      exact (List.mem_append.1 hc).elim (isDigit_of_mem_wholeText _ c) (isDigit_of_mem_zeros _ c)
    · have hdigits : digitsValue d.positional = d.digits * 10 ^ zeros := by
        rw [htext, digitsValue_append, digitsValue_replicate_zero, digitsValue_wholeText,
          List.length_replicate, Nat.add_zero]
      rw [hdigits, size]
      push_cast
      rcases Nat.eq_zero_or_pos d.digits with h0 | hpos
      · rw [h0, Nat.cast_zero, zero_mul, zero_mul]
      · rw [hzeros hpos.ne', ← zpow_natCast, Int.toNat_of_nonneg h]
  -- the other forms have a point, and digits behind it
  · have hpos := List.length_pos_iff.2 hfraction
    omega
  · rw [List.length_append] at hexp
    have hpos := List.length_pos_iff.2 hne
    omega

/-- **What is written without an exponent is a numeral** of its sign and size. -/
theorem writes_positional (d : Decimal) :
    ∃ e, Numeral.Writes (signText d.negative ++ d.positional) e ∧
      e.negative = d.negative ∧ e.size = d.size := by
  have hds := isDigit_of_mem_wholeText d.digits
  have hvalue := digitsValue_wholeText d.digits
  have hsign := Numeral.isSign_signText d.negative
  obtain ⟨hnonneg, -⟩ | ⟨whole, fraction, -, hfraction, hparts, hexp, htext⟩ |
    ⟨zeros, hexp, htext⟩ := d.positional_cases
  · obtain ⟨hne, hall, hsize⟩ := positional_of_nonneg hnonneg
    have hwrites := Numeral.Writes.parts hsign (.whole d.positional) hall (by simp)
      (by simpa using hne) .none
    rw [List.append_nil] at hwrites
    refine ⟨_, hwrites, rfl, ?_⟩
    rw [← hsize, size]
    simp
  · rw [hparts] at hds hvalue
    have hwrites := Numeral.Writes.parts hsign (.point whole fraction)
      (fun c hc => hds c (List.mem_append_left _ hc))
      (fun c hc => hds c (List.mem_append_right _ hc)) (by simp [hfraction]) .none
    rw [List.append_nil, ← htext] at hwrites
    refine ⟨_, hwrites, rfl, ?_⟩
    rw [size, size, hvalue, hexp, Int.zero_sub]
  · have hall : ∀ c ∈ List.replicate zeros '0' ++ wholeText d.digits, isDigit c = true :=
      fun c hc => (List.mem_append.1 hc).elim (isDigit_of_mem_zeros _ c) (hds c)
    have hwrites := Numeral.Writes.parts hsign (.point ['0'] _) (isDigit_of_mem_zeros 1) hall
      (by simp) .none
    rw [List.append_nil, ← htext] at hwrites
    refine ⟨_, hwrites, rfl, ?_⟩
    have hdigits : digitsValue (['0'] ++ (List.replicate zeros '0' ++ wholeText d.digits)) =
        d.digits := by
      have hzero : digitsValue ['0'] = 0 := digitsValue_replicate_zero 1
      rw [digitsValue_append, digitsValue_append, digitsValue_replicate_zero, hvalue, hzero,
        Nat.zero_mul, Nat.zero_mul, Nat.zero_add, Nat.zero_add]
    rw [size, size, hdigits, hexp, Int.zero_sub]

end Decimal

/-- **What is written without an exponent is read with its sign and size.** -/
theorem Numeral.read?_positional (d : Decimal) :
    ∃ e, read? (signText d.negative ++ d.positional) = some e ∧
      e.negative = d.negative ∧ e.size = d.size := by
  obtain ⟨e, hwrites, hsign, hsize⟩ := d.writes_positional
  exact ⟨e, read?_of_writes hwrites, hsign, hsize⟩

/-! ### Finite numbers -/

/-- A digit is not blank. -/
theorem isBlank_of_isDigit {c : Char} (h : isDigit c = true) : Text.isBlank c = false := by
  obtain ⟨hlow, hhigh⟩ : 48 ≤ c.toNat ∧ c.toNat ≤ 57 := by
    simpa [isDigit, Char.le_def, UInt32.le_iff_toNat_le] using h
  simp only [Text.isBlank, Text.isSpace, Bool.or_eq_false_iff, Bool.and_eq_false_iff,
    decide_eq_false_iff_not, beq_eq_false_iff_ne]
  omega

/-- Nothing in a written number is blank. -/
theorem isBlank_of_mem_positional (d : Decimal) :
    ∀ c ∈ signText d.negative ++ d.positional, Text.isBlank c = false := by
  intro c hc
  rcases List.mem_append.1 hc with hc | hc
  · cases hneg : d.negative with
    | false =>
      rw [hneg] at hc
      cases hc
    | true =>
      rw [hneg] at hc
      rw [List.mem_singleton.1 hc]
      rfl
  · rcases Decimal.isDigit_or_of_mem_positional hc with h | rfl
    · exact isBlank_of_isDigit h
    · rfl

/-- A text without members of a class keeps its ends. -/
theorem Text.trimBy_eq_self {α : Type} {p : α → Bool} {cs : List α} (h : ∀ c ∈ cs, p c = false) :
    trimBy p cs = cs := by
  have hfront : ∀ l : List α, (∀ c ∈ l, p c = false) → l.dropWhile p = l := by
    intro l hl
    cases l with
    | nil => rfl
    | cons c l =>
      rw [List.dropWhile_cons, hl c List.mem_cons_self]
      rfl
  rw [trimBy, hfront cs h, hfront cs.reverse fun c hc => h c (List.mem_reverse.1 hc),
    List.reverse_reverse]

/-- A numeral with nothing blank in it is read as its double, if that is finite. -/
theorem readNumber_of_read? {cs : List Char} {d : Decimal} (h : Numeral.read? cs = some d)
    (hblank : ∀ c ∈ cs, Text.isBlank c = false) (hfinite : d.toDouble.isFinite = true) :
    readNumber (CodeText.ofString (String.ofList cs)) = .ok d.toDouble := by
  have hne : cs ≠ [] := by
    rintro rfl
    cases h
  have htrim : (CodeText.ofChars cs).trim = CodeText.ofChars cs := by
    refine Text.trimBy_eq_self fun p hp => ?_
    obtain ⟨c, hc, rfl⟩ := List.mem_map.1 hp
    exact hblank c hc
  have hempty : (CodeText.ofChars cs).isEmpty = false := by
    rw [List.isEmpty_eq_false_iff]
    exact fun h => hne (List.map_eq_nil_iff.1 h)
  rw [CodeText.ofString, String.toList_ofList]
  unfold readNumber
  simp [htrim, hempty, CodeText.chars?_ofChars, h, hfinite]

/-- **A finite double is read from what is written of it**, but for the sign of zero. -/
theorem readNumber_plain (negative : Bool) (m : Magnitude) :
    readNumber (CodeText.ofString (Double.finite negative m).plain) =
      .ok (if m.units = 0 then .zero else .finite negative m) := by
  have hdouble := Double.toDouble_decimal negative m
  unfold Double.plain Double.plainText
  simp only [Double.digits_decimal_eq_zero_iff]
  split
  · rfl
  · rename_i hunits
    obtain ⟨e, hread, hsign, hsize⟩ := Numeral.read?_positional (Double.decimal negative m)
    have htoDouble : e.toDouble = .finite negative m := by
      rw [Decimal.toDouble_congr hsign hsize, hdouble]
    have hblank := isBlank_of_mem_positional (Double.decimal negative m)
    have hfinite : e.toDouble.isFinite = true := by rw [htoDouble]; rfl
    rw [← htoDouble]
    exact readNumber_of_read? hread hblank hfinite

/-- **What is read from a written double is finite and has its value.** -/
theorem finite_of_readNumber_plain {x y : Double}
    (h : readNumber (CodeText.ofString x.plain) = .ok y) :
    x.isFinite = true ∧ y.isFinite = true ∧ y.units? = x.units? := by
  cases x with
  | nan => cases h
  | infinite negative => cases negative <;> cases h
  | finite negative m =>
    rw [readNumber_plain] at h
    obtain rfl := Except.ok.inj h
    split
    · rename_i h0
      cases negative <;> simp [Double.units?, Double.zero, Double.isFinite, Magnitude.zero, h0]
    · exact ⟨rfl, rfl, rfl⟩

end MetricIntake
