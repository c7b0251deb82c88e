import MetricIntake.Proofs.Numerals

/-!
# The plain form of a number

`IsPlainNumeral` is the form in which `Double.plain` writes finite doubles: no exponent, no zero in
front of another digit, and none at the end of a fraction.  `Double.plain_canonical` says that each
finite double is written so, with the same number as `Double.display` writes, and that the text
tells the number: it is read back, and numbers that differ have different texts.
-/

namespace MetricIntake

/-! ### Plain numerals -/

/-- The text `0`, or digits of which the first is not zero. -/
inductive IsPlainWhole : List Char → Prop
  | zero : IsPlainWhole ['0']
  | digits {c : Char} {ds : List Char} (hc : isDigit c = true) (h0 : c ≠ '0')
      (hds : ∀ d ∈ ds, isDigit d = true) : IsPlainWhole (c :: ds)

/-- Nothing, or a point and digits of which the last is not zero. -/
inductive IsPlainFraction : List Char → Prop
  | none : IsPlainFraction []
  | digits {ds : List Char} {c : Char} (hds : ∀ d ∈ ds, isDigit d = true)
      (hc : isDigit c = true) (h0 : c ≠ '0') : IsPlainFraction ('.' :: (ds ++ [c]))

/-- An optional minus, a plain whole number and a plain fraction. -/
inductive IsPlainNumeral : List Char → Prop
  | parts (negative : Bool) {whole fraction : List Char} (hwhole : IsPlainWhole whole)
      (hfraction : IsPlainFraction fraction) :
      IsPlainNumeral (signText negative ++ (whole ++ fraction))

/-- Digits of which the first is not zero are plain. -/
theorem IsPlainWhole.of_head? {cs : List Char} (hne : cs ≠ []) (hcs : ∀ c ∈ cs, isDigit c = true)
    (h0 : cs.head? ≠ some '0') : IsPlainWhole cs := by
  cases cs with
  | nil => exact absurd rfl hne
  | cons c ds =>
    obtain ⟨hc, hds⟩ := List.forall_mem_cons.1 hcs
    exact .digits hc (fun h => h0 (congrArg some h)) hds

/-- A point and digits of which the last is not zero are plain. -/
theorem IsPlainFraction.of_getLast? {cs : List Char} (hne : cs ≠ [])
    (hcs : ∀ c ∈ cs, isDigit c = true) (h0 : cs.getLast? ≠ some '0') :
    IsPlainFraction ('.' :: cs) := by
  induction cs using List.reverseRecOn with
  | nil => exact absurd rfl hne
  | append_singleton ds c _ =>
    rw [List.getLast?_concat] at h0
    exact .digits (fun d hd => hcs d (List.mem_append_left _ hd))
      (hcs c (List.mem_append_right _ (List.mem_singleton_self c))) (fun h => h0 (congrArg some h))

/-! ### Digits at the ends -/

/-- Only zero has the digit zero. -/
theorem digitChar_ne_zero {n : Nat} (hpos : n ≠ 0) (h : n < 10) : Nat.digitChar n ≠ '0' := by
  intro hzero
  have hvalue := digitValue_digitChar h
  rw [hzero] at hvalue
  exact hpos hvalue.symm

/-- A number other than zero does not start with a zero. -/
theorem head?_wholeText_ne {n : Nat} (h : n ≠ 0) : (wholeText n).head? ≠ some '0' := by
  induction n using Nat.strong_induction_on with
  | _ n ih =>
    by_cases hten : 10 ≤ n
    · rw [wholeText_of_ten_le hten, List.head?_append_of_ne_nil _ (wholeText_ne_nil _)]
      exact ih (n / 10) (by omega) (by omega)
    · have hlt : n < 10 := by omega
      rw [wholeText_of_lt_ten hlt]
      exact fun hzero => digitChar_ne_zero h hlt (Option.some.inj hzero)

/-- A number that is no multiple of ten does not end with a zero. -/
theorem getLast?_wholeText_ne {n : Nat} (h : n % 10 ≠ 0) : (wholeText n).getLast? ≠ some '0' := by
  have hlast : (wholeText n).getLast? = some (Nat.digitChar (n % 10)) := by
    by_cases hten : 10 ≤ n
    · rw [wholeText_of_ten_le hten, List.getLast?_concat]
    · have hlt : n < 10 := by omega
      rw [wholeText_of_lt_ten hlt, Nat.mod_eq_of_lt hlt, List.getLast?_singleton]
  rw [hlast]
  exact fun hzero => digitChar_ne_zero h (Nat.mod_lt _ (by decide)) (Option.some.inj hzero)

namespace Decimal

/-- As many rounds as the number of the digits take all zeros off their end. -/
theorem digits_dropZerosFrom {fuel digits : Nat} (h : digits ≤ fuel) (exponent : Int) :
    (dropZerosFrom fuel digits exponent).1 = 0 ∨
      (dropZerosFrom fuel digits exponent).1 % 10 ≠ 0 := by
  induction fuel generalizing digits exponent with
  | zero => exact .inl (Nat.le_zero.1 h)
  | succ fuel ih =>
    rw [dropZerosFrom]
    split
    · exact ih (by omega) _
    · dsimp only
      omega

/-- Zero aside, no zero is left at the end of the digits. -/
theorem digits_dropZeros (d : Decimal) : d.dropZeros.digits = 0 ∨ d.dropZeros.digits % 10 ≠ 0 :=
  digits_dropZerosFrom (Nat.le_refl d.digits) d.exponent

/-- **Digits that do not end with a zero are written plainly.** -/
theorem isPlainNumeral_positional {d : Decimal} (h : d.digits % 10 ≠ 0) :
    IsPlainNumeral (signText d.negative ++ d.positional) := by
  have hds := isDigit_of_mem_wholeText d.digits
  have hne := wholeText_ne_nil d.digits
  have hfirst : (wholeText d.digits).head? ≠ some '0' := head?_wholeText_ne (by omega)
  have hlast : (wholeText d.digits).getLast? ≠ some '0' := getLast?_wholeText_ne h
  obtain ⟨-, zeros, htext, -⟩ | ⟨whole, fraction, hwhole, hfraction, hparts, -, htext⟩ |
    ⟨zeros, -, htext⟩ := d.positional_cases
  · -- the digits and zeros behind them
    have hfront : (wholeText d.digits ++ List.replicate zeros '0').head? ≠ some '0' := by
      rw [List.head?_append_of_ne_nil _ hne]
      exact hfirst
    have hplain := IsPlainNumeral.parts d.negative
      (.of_head? (by simp [hne]) (fun c hc => (List.mem_append.1 hc).elim (hds c)
        (isDigit_of_mem_zeros _ c)) hfront) .none
    rwa [List.append_nil, ← htext] at hplain
  · -- the point is between the first digit and the last one
    rw [hparts] at hds hfirst hlast
    rw [List.head?_append_of_ne_nil _ hwhole] at hfirst
    rw [List.getLast?_append_of_ne_nil _ hfraction] at hlast
    have hplain := IsPlainNumeral.parts d.negative
      (.of_head? hwhole (fun c hc => hds c (List.mem_append_left _ hc)) hfirst)
      (.of_getLast? hfraction (fun c hc => hds c (List.mem_append_right _ hc)) hlast)
    rwa [← htext] at hplain
  · -- zeros between the point and the digits
    rw [← List.getLast?_append_of_ne_nil (List.replicate zeros '0') hne] at hlast
    have hplain := IsPlainNumeral.parts d.negative .zero
      (.of_getLast? (by simp [hne]) (fun c hc => (List.mem_append.1 hc).elim
        (isDigit_of_mem_zeros _ c) (hds c)) hlast)
    rwa [← htext] at hplain

/-! ### The displayed form -/

/-- A power of ten is written with its sign. -/
theorem isExponent_text (e : Int) :
    Numeral.IsExponent ('e' :: (if e < 0 then '-' else '+') :: paddedText 2 e.natAbs) e := by
  have hne : paddedText 2 e.natAbs ≠ [] := by simp [paddedText, wholeText_ne_nil]
  have hds : ∀ c ∈ paddedText 2 e.natAbs, isDigit c = true := fun _ => isDigit_of_mem_paddedText
  have hvalue := digitsValue_paddedText 2 e.natAbs
  split
  · have hexponent := Numeral.IsExponent.letter (.inl rfl) .minus hne hds
    rwa [hvalue, if_pos rfl, show -(e.natAbs : Int) = e by omega] at hexponent
  · have hexponent := Numeral.IsExponent.letter (.inl rfl) .plus hne hds
    rwa [hvalue, if_neg Bool.false_ne_true, show (e.natAbs : Int) = e by omega] at hexponent

/-- The first digit in front of a point and the others behind it have the size of all of them with
the power of ten of the first. -/
theorem writes_mantissa {d : Decimal} {c : Char} {rest mantissa : List Char}
    (hds : wholeText d.digits = c :: rest) (hpoint : Numeral.IsPoint mantissa [c] rest) :
    ∃ e, Numeral.Writes (signText d.negative ++ (mantissa ++
        'e' :: (if d.leadingPlace < 0 then '-' else '+') :: paddedText 2 d.leadingPlace.natAbs)) e ∧
      e.negative = d.negative ∧ e.size = d.size := by
  have hdigits := isDigit_of_mem_wholeText d.digits
  have hvalue := digitsValue_wholeText d.digits
  rw [hds] at hdigits hvalue
  obtain ⟨hc, hrest⟩ := List.forall_mem_cons.1 hdigits
  have hfirst : ∀ x ∈ [c], isDigit x = true := by simpa using hc
  have hwrites := Numeral.Writes.parts (Numeral.isSign_signText d.negative) hpoint hfirst hrest
    (by simp) (isExponent_text d.leadingPlace)
  refine ⟨_, hwrites, rfl, ?_⟩
  have hexponent : d.leadingPlace - rest.length = d.exponent := by
    rw [leadingPlace, hds, List.length_cons, Nat.add_sub_cancel]
    omega
  rw [size, size, List.singleton_append, hvalue, hexponent]

/-- **One digit, the others behind a point and a power of ten** are a numeral of the same size. -/
theorem writes_scientific (d : Decimal) :
    ∃ e, Numeral.Writes (signText d.negative ++ d.scientific) e ∧
      e.negative = d.negative ∧ e.size = d.size := by
  cases hds : wholeText d.digits with
  | nil => exact absurd hds (wholeText_ne_nil d.digits)
  | cons c rest =>
    have htext := @writes_mantissa d c rest
    unfold leadingPlace at htext
    unfold scientific
    rw [hds] at htext ⊢
    cases rest with
    | nil => exact htext rfl (.whole [c])
    | cons c' rest => exact htext rfl (.point [c] (c' :: rest))

/-- **What is displayed is a numeral** of its sign and size, whether with an exponent or without. -/
theorem writes_display (d : Decimal) :
    ∃ e, Numeral.Writes (signText d.negative ++ d.display) e ∧
      e.negative = d.negative ∧ e.size = d.size := by
  unfold display
  split
  · split
    · exact d.writes_positional
    · -- a whole number is displayed with a zero behind its point
      rename_i hexponent
      obtain ⟨-, hall, hsize⟩ := positional_of_nonneg (d := d) (by omega)
      have hwrites := Numeral.Writes.parts (Numeral.isSign_signText d.negative)
        (.point d.positional ['0']) hall (isDigit_of_mem_zeros 1) (by simp) .none
      rw [List.append_nil] at hwrites
      refine ⟨_, hwrites, rfl, ?_⟩
      have hzero : digitsValue ['0'] = 0 := digitsValue_replicate_zero 1
      rw [size, digitsValue_append, hzero, ← hsize]
      simp
  · exact d.writes_scientific

/-- The number of a decimal is told by its sign and size. -/
theorem value_congr {d e : Decimal} (hsign : d.negative = e.negative) (h : d.size = e.size) :
    d.value = e.value := by
  unfold size at h
  rw [value, value, hsign, mul_assoc, mul_assoc, h]

end Decimal

/-! ### Finite doubles -/

namespace Double

/-- **A finite double is written plainly.** -/
theorem isPlainNumeral_plainText (negative : Bool) (m : Magnitude) :
    IsPlainNumeral (finite negative m).plainText := by
  unfold plainText
  dsimp only
  split
  · exact .parts false .zero .none
  · rename_i h0
    exact Decimal.isPlainNumeral_positional ((Decimal.digits_dropZeros _).resolve_left h0)

/-- **Both written forms of a finite double are numerals of one number**, whose nearest double it
is. -/
theorem writes_plainText (negative : Bool) (m : Magnitude) :
    ∃ d e, Numeral.Writes (finite negative m).plainText d ∧
      Numeral.Writes (finite negative m).displayText e ∧ d.value = e.value ∧
      e.toDouble = finite negative m := by
  obtain ⟨e, hdisplay, hsign, hsize⟩ := (decimal negative m).writes_display
  have hread : e.toDouble = finite negative m := by
    rw [Decimal.toDouble_congr hsign hsize, toDouble_decimal]
  have hvalue : (decimal negative m).value = e.value := Decimal.value_congr hsign.symm hsize.symm
  unfold plainText
  dsimp only
  split
  · -- both zeros have the number zero
    rename_i h0
    have hzero := Numeral.Writes.parts .none (.whole ['0']) (isDigit_of_mem_zeros 1) (by simp)
      (by simp) .none
    refine ⟨_, e, hzero, hdisplay, ?_, hread⟩
    have hnone : digitsValue (['0'] ++ []) = 0 := digitsValue_replicate_zero 1
    rw [← hvalue, Decimal.value, Decimal.value, h0, hnone]
    simp
  · obtain ⟨d, hplain, hsign', hsize'⟩ := (decimal negative m).writes_positional
    exact ⟨d, e, hplain, hdisplay, (Decimal.value_congr hsign' hsize').trans hvalue, hread⟩

/-- **Finite doubles are written alike** just if they have the same value. -/
theorem plain_eq_plain_iff (negative negative' : Bool) (m m' : Magnitude) :
    (finite negative' m').plain = (finite negative m).plain ↔
      (finite negative' m').units? = (finite negative m).units? := by
  constructor
  · intro h
    have hread := readNumber_plain negative m
    have hvalue := (finite_of_readNumber_plain hread).2.2
    rw [← h] at hread
    exact (finite_of_readNumber_plain hread).2.2.symm.trans hvalue
  · intro h
    have hsame : m'.units = m.units ∧ (m.units = 0 ∨ negative' = negative) := by
      cases negative <;> cases negative' <;> simp [units?] at h ⊢ <;> omega
    obtain rfl : m' = m := Magnitude.ext hsame.1
    rcases hsame.2 with h0 | rfl
    · simp only [plain, plainText, digits_decimal_eq_zero_iff, h0, if_true]
    · rfl

/-- **The plain form of a finite double.**  It has no exponent and no needless zeros, and is not the
negative zero.  It writes the number that the displayed form writes, and is read as the double but
for the sign of zero; so numbers that differ are written differently. -/
theorem plain_canonical (negative : Bool) (m : Magnitude) :
    IsPlainNumeral (finite negative m).plainText ∧ (finite negative m).plainText ≠ ['-', '0'] ∧
    (∃ d e, Numeral.Writes (finite negative m).plainText d ∧
      Numeral.Writes (finite negative m).displayText e ∧ d.value = e.value ∧
      e.toDouble = finite negative m) ∧
    readNumber (CodeText.ofString (finite negative m).plain) =
      .ok (if m.units = 0 then zero else finite negative m) ∧
    ∀ negative' m', (finite negative' m').plain = (finite negative m).plain ↔
      (finite negative' m').units? = (finite negative m).units? := by
  refine ⟨isPlainNumeral_plainText negative m, ?_, writes_plainText negative m,
    readNumber_plain negative m, fun negative' m' => plain_eq_plain_iff negative negative' m m'⟩
  intro h
  have hzero : readNumber (CodeText.ofString "-0") = .ok (finite true .zero) := by decide
  have hplain : (finite negative m).plain = "-0" := by rw [plain, h]
  -- it would be read as the negative zero, which is not read from what is written of any double
  have hread := readNumber_plain negative m
  rw [hplain, hzero] at hread
  split at hread
  · cases Except.ok.inj hread
  · rename_i h0
    exact h0 (congrArg Magnitude.units (Double.finite.inj (Except.ok.inj hread)).2).symm

end Double

end MetricIntake
