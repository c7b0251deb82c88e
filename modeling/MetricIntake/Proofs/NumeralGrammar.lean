import MetricIntake.Numeral
import Mathlib.Data.List.TakeWhile
import Mathlib.Data.Rat.Defs

/-!
# The grammar of numerals

`Numeral.Writes` says which texts are numerals and which decimal each of them writes, part by part:
a sign, digits with or without a point, and a power of ten.  `Numeral.read?` reads every numeral as
its decimal (`Numeral.read?_of_writes`), so a text is a numeral for one decimal at most, and it
reads nothing else: `Numeral.read?_eq_some_iff`.
-/

namespace MetricIntake

/-- A digit is none of the other characters. -/
theorem ne_of_isDigit {c d : Char} (hc : isDigit c = true) (hd : isDigit d = false) : c ≠ d := by
  rintro rfl
  rw [hc] at hd
  cases hd

/-- The number that a decimal is. -/
def Decimal.value (d : Decimal) : ℚ :=
  (if d.negative then -1 else 1) * d.digits * (10 : ℚ) ^ d.exponent

namespace Numeral

/-! ### The parts of a numeral -/

/-- An optional sign, and whether it is a minus. -/
inductive IsSign : List Char → Bool → Prop
  | none : IsSign [] false
  | plus : IsSign ['+'] false
  | minus : IsSign ['-'] true

/-- Digits with or without a point: those in front of it and those behind it. -/
inductive IsPoint : List Char → List Char → List Char → Prop
  | whole (whole : List Char) : IsPoint whole whole []
  | point (whole fraction : List Char) : IsPoint (whole ++ '.' :: fraction) whole fraction

/-- An optional exponent. -/
inductive IsExponent : List Char → Int → Prop
  | none : IsExponent [] 0
  | letter {letter : Char} {sign ds : List Char} {negative : Bool}
      (hletter : letter = 'e' ∨ letter = 'E') (hsign : IsSign sign negative) (hne : ds ≠ [])
      (hds : ∀ c ∈ ds, isDigit c = true) :
      IsExponent (letter :: (sign ++ ds))
        (if negative then -(digitsValue ds : Int) else digitsValue ds)

/-- The texts that are numerals, each with the decimal that it writes.  There is a digit in front of
the point or behind it. -/
inductive Writes : List Char → Decimal → Prop
  | parts {sign point exponent whole fraction : List Char} {negative : Bool} {e : Int}
      (hsign : IsSign sign negative) (hpoint : IsPoint point whole fraction)
      (hwhole : ∀ c ∈ whole, isDigit c = true) (hfraction : ∀ c ∈ fraction, isDigit c = true)
      (hne : whole ++ fraction ≠ []) (hexponent : IsExponent exponent e) :
      Writes (sign ++ (point ++ exponent))
        { negative, digits := digitsValue (whole ++ fraction), exponent := e - fraction.length }

/-! ### Reading the parts -/

/-- A sign is read for itself where none follows it. -/
theorem scanSign_of_isSign {sign : List Char} {negative : Bool} (h : IsSign sign negative)
    {cs : List Char} (hplus : cs.head? ≠ some '+') (hminus : cs.head? ≠ some '-') :
    scanSign (sign ++ cs) = (negative, cs) := by
  cases h with
  | none =>
    cases cs with
    | nil => rfl
    | cons c cs =>
      have hp : c ≠ '+' := fun h => hplus (congrArg some h)
      have hm : c ≠ '-' := fun h => hminus (congrArg some h)
      simp [scanSign, hp, hm]
  | plus => rfl
  | minus => rfl

/-- A digit is no sign. -/
theorem head?_ne_of_isDigit {cs : List Char} (hcs : ∀ c ∈ cs, isDigit c = true) {d : Char}
    (hd : isDigit d = false) : cs.head? ≠ some d := by
  cases cs with
  | nil => exact (Option.some_ne_none d).symm
  | cons c cs => exact fun h => ne_of_isDigit (hcs c List.mem_cons_self) hd (Option.some.inj h)

/-- Digits are taken off the text in front of which they stand. -/
theorem span_isDigit {ds rest : List Char} (hds : ∀ c ∈ ds, isDigit c = true)
    (hrest : ∀ c ∈ rest.head?, isDigit c = false) :
    (ds ++ rest).takeWhile isDigit = ds ∧ (ds ++ rest).dropWhile isDigit = rest := by
  rw [List.takeWhile_append_of_pos hds, List.dropWhile_append_of_pos hds]
  cases rest with
  | nil => exact ⟨List.append_nil ds, rfl⟩
  | cons c rest =>
    have hc : isDigit c = false := hrest c rfl
    simp [hc]

/-- An exponent is read whole. -/
theorem scanExponent_of_isExponent {c : Char} {cs : List Char} {e : Int}
    (h : IsExponent (c :: cs) e) : scanExponent (c :: cs) = some (e, []) := by
  cases h with
  | letter hletter hsign hne hds =>
    rename_i sign ds negative
    have hscan := scanSign_of_isSign hsign (head?_ne_of_isDigit hds rfl)
      (head?_ne_of_isDigit hds rfl)
    have hend : ∀ c ∈ ([] : List Char).head?, isDigit c = false := by simp
    obtain ⟨htake, hdrop⟩ := span_isDigit hds hend
    rw [List.append_nil] at htake hdrop
    have hempty : ds.isEmpty = false := List.isEmpty_eq_false_iff.2 hne
    rw [scanExponent, if_pos hletter, hscan]
    simp [htake, hdrop, hempty]

/-- An exponent starts with a letter. -/
theorem head?_of_isExponent {exponent : List Char} {e : Int} (h : IsExponent exponent e) :
    ∀ c ∈ exponent.head?, c = 'e' ∨ c = 'E' := by
  cases h with
  | none => simp
  | letter hletter => simpa using hletter

/-- Digits and a point are read in front of an exponent. -/
theorem scan_of_isPoint {point whole fraction exponent : List Char} {e : Int}
    (h : IsPoint point whole fraction) (hwhole : ∀ c ∈ whole, isDigit c = true)
    (hfraction : ∀ c ∈ fraction, isDigit c = true) (hexponent : IsExponent exponent e) :
    (point ++ exponent).takeWhile isDigit = whole ∧
      (scanFraction ((point ++ exponent).dropWhile isDigit)).getD
        ([], (point ++ exponent).dropWhile isDigit) = (fraction, exponent) := by
  -- neither digits nor a point can be taken from the exponent
  have hletter : ∀ c ∈ exponent.head?, isDigit c = false := by
    intro c hc
    rcases head?_of_isExponent hexponent c hc with rfl | rfl <;> rfl
  cases h with
  | whole =>
    obtain ⟨htake, hdrop⟩ := span_isDigit hwhole hletter
    have hnone : scanFraction exponent = none := by
      cases exponent with
      | nil => rfl
      | cons c cs =>
        rcases head?_of_isExponent hexponent c rfl with rfl | rfl <;> rfl
    rw [htake, hdrop, hnone]
    exact ⟨rfl, rfl⟩
  | point =>
    have hpoint : ∀ c ∈ ('.' :: (fraction ++ exponent)).head?, isDigit c = false := by
      simp [isDigit]
    obtain ⟨htake, hdrop⟩ := span_isDigit hwhole hpoint
    obtain ⟨htake', hdrop'⟩ := span_isDigit hfraction hletter
    rw [List.append_assoc, List.cons_append, htake, hdrop, scanFraction, htake', hdrop']
    exact ⟨rfl, rfl⟩

/-- What a sign stands in front of is no sign. -/
theorem head?_of_isPoint {point whole fraction : List Char} (h : IsPoint point whole fraction)
    (hwhole : ∀ c ∈ whole, isDigit c = true) (hne : whole ++ fraction ≠ []) (exponent : List Char)
    {d : Char} (hd : isDigit d = false) (hpoint : d ≠ '.') :
    (point ++ exponent).head? ≠ some d := by
  cases whole with
  | nil =>
    cases h with
    | whole => exact absurd rfl hne
    | point => exact fun h => hpoint (Option.some.inj h).symm
  | cons c cs =>
    have hc : c ≠ d := ne_of_isDigit (hwhole c List.mem_cons_self) hd
    cases h with
    | whole => exact fun h => hc (Option.some.inj h)
    | point => exact fun h => hc (Option.some.inj h)

/-- **A numeral is read as the decimal that it writes.** -/
theorem read?_of_writes {text : List Char} {d : Decimal} (h : Writes text d) :
    read? text = some d := by
  cases h with
  | parts hsign hpoint hwhole hfraction hne hexponent =>
    rename_i sign point exponent whole fraction negative e
    have hscan := scanSign_of_isSign hsign
      (head?_of_isPoint hpoint hwhole hne exponent rfl (by decide))
      (head?_of_isPoint hpoint hwhole hne exponent rfl (by decide))
    obtain ⟨htake, hrest⟩ := scan_of_isPoint hpoint hwhole hfraction hexponent
    have hsome : (whole.isEmpty && fraction.isEmpty) = false := by
      rw [← Bool.not_eq_true, Bool.and_eq_true, List.isEmpty_iff, List.isEmpty_iff]
      rintro ⟨rfl, rfl⟩
      exact hne rfl
    unfold read?
    dsimp only
    rw [hscan]
    dsimp only
    rw [htake, hrest]
    dsimp only
    rw [hsome, if_neg Bool.false_ne_true]
    cases exponent with
    | nil =>
      cases hexponent
      simp
    | cons c cs => rw [scanExponent_of_isExponent hexponent]

/-! ### What is read is a numeral -/

theorem isSign_scanSign (cs : List Char) :
    ∃ sign, IsSign sign (scanSign cs).1 ∧ cs = sign ++ (scanSign cs).2 := by
  unfold scanSign
  split
  · exact ⟨_, .minus, rfl⟩
  · exact ⟨_, .plus, rfl⟩
  · exact ⟨_, .none, rfl⟩

theorem isDigit_of_mem_takeWhile (cs : List Char) : ∀ c ∈ cs.takeWhile isDigit, isDigit c = true :=
  List.all_eq_true.1 List.all_takeWhile

/-- The digits in front of a text and behind a point, and what follows them. -/
theorem isPoint_scan (cs : List Char) :
    ∃ point fraction rest,
      (scanFraction (cs.dropWhile isDigit)).getD ([], cs.dropWhile isDigit) = (fraction, rest) ∧
      IsPoint point (cs.takeWhile isDigit) fraction ∧ (∀ c ∈ fraction, isDigit c = true) ∧
      cs = point ++ rest := by
  have hsplit : cs = cs.takeWhile isDigit ++ cs.dropWhile isDigit :=
    List.takeWhile_append_dropWhile.symm
  cases hfraction : scanFraction (cs.dropWhile isDigit) with
  | none => exact ⟨_, _, _, rfl, .whole _, by simp, hsplit⟩
  | some found =>
    unfold scanFraction at hfraction
    split at hfraction
    · rename_i behind hpoint
      obtain rfl := Option.some.inj hfraction
      refine ⟨_, _, _, rfl, .point _ _, isDigit_of_mem_takeWhile _, ?_⟩
      rw [List.append_assoc, List.cons_append, List.takeWhile_append_dropWhile, ← hpoint]
      exact hsplit
    · cases hfraction

/-- An exponent that ends the text. -/
theorem isExponent_of_scanExponent {cs : List Char} {e : Int}
    (h : scanExponent cs = some (e, [])) : IsExponent cs e := by
  unfold scanExponent at h
  split at h
  · rename_i c tail
    split at h
    · rename_i hletter
      obtain ⟨sign, hsign, htail⟩ := isSign_scanSign tail
      dsimp only at h
      split at h
      · cases h
      · rename_i hne
        obtain ⟨rfl, hrest⟩ := Prod.mk.inj (Option.some.inj h)
        have hds : (scanSign tail).2.takeWhile isDigit = (scanSign tail).2 := by
          have hsplit := List.takeWhile_append_dropWhile (p := isDigit) (l := (scanSign tail).2)
          rwa [hrest, List.append_nil] at hsplit
        have hexponent := IsExponent.letter hletter hsign (by simpa using hne)
          (isDigit_of_mem_takeWhile (scanSign tail).2)
        rwa [hds, ← htail, ← hds] at hexponent
    · cases h
  · cases h

/-- **What is read is a numeral** for the decimal that it is read as. -/
theorem writes_of_read? {text : List Char} {d : Decimal} (h : read? text = some d) :
    Writes text d := by
  obtain ⟨sign, hsign, htext⟩ := isSign_scanSign text
  obtain ⟨point, fraction, rest, hscan, hpoint, hfraction, hbody⟩ := isPoint_scan (scanSign text).2
  unfold read? at h
  dsimp only at h
  rw [hscan] at h
  dsimp only at h
  split at h
  · cases h
  · rename_i hsome
    have hne : (scanSign text).2.takeWhile isDigit ++ fraction ≠ [] := by
      intro hnil
      obtain ⟨hwhole, hrest⟩ := List.append_eq_nil_iff.1 hnil
      exact hsome (by rw [hwhole, hrest]; rfl)
    rw [hbody] at htext
    split at h
    · obtain rfl := Option.some.inj h
      have hwrites := Writes.parts hsign hpoint (isDigit_of_mem_takeWhile _) hfraction hne .none
      rwa [Int.zero_sub, ← htext] at hwrites
    · split at h
      · rename_i hexponent
        obtain rfl := Option.some.inj h
        have hwrites := Writes.parts hsign hpoint (isDigit_of_mem_takeWhile _) hfraction hne
          (isExponent_of_scanExponent hexponent)
        rwa [← htext] at hwrites
      · cases h

/-- **Numerals are what is read.** -/
theorem read?_eq_some_iff {text : List Char} {d : Decimal} : read? text = some d ↔ Writes text d :=
  ⟨writes_of_read?, read?_of_writes⟩

end Numeral

end MetricIntake
