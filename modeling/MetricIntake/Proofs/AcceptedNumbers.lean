import MetricIntake.Proofs.NearestDouble

/-!
# The numbers that are accepted

`Trims` says what is left of a text when its ends are cut: members of a class around it, and none at
either end of it.  `Text.trimBy_eq_iff` says that trimming finds it.

`readNumber_outcomes` is all that reading a number can give: the nearest double of a numeral whose
size is in the range, and for every other text the error that applies to it.
-/

namespace MetricIntake

/-! ### What is between the blanks -/

namespace Text

variable {α : Type} {p : α → Bool}

/-- What is left of a text between members of a class. -/
structure Trims (p : α → Bool) (text body : List α) : Prop where
  within : ∃ front back, text = front ++ body ++ back ∧ (∀ c ∈ front, p c = true) ∧
    ∀ c ∈ back, p c = true
  head : ∀ c ∈ body.head?, p c = false
  last : ∀ c ∈ body.getLast?, p c = false

theorem dropWhile_append_of_head {front rest : List α} (hfront : ∀ c ∈ front, p c = true)
    (hrest : ∀ c ∈ rest.head?, p c = false) : (front ++ rest).dropWhile p = rest := by
  rw [List.dropWhile_append_of_pos hfront]
  cases rest with
  | nil => rfl
  | cons c rest => exact List.dropWhile_cons_of_neg (by simp [hrest c rfl])

theorem head_dropWhile (cs : List α) : ∀ c ∈ (cs.dropWhile p).head?, p c = false := by
  intro c hc
  have hnot := List.head?_dropWhile_not p cs
  rwa [Option.mem_def.1 hc] at hnot

/-- **Trimming leaves what is between the members of the class.** -/
theorem trimBy_eq_iff {text body : List α} : trimBy p text = body ↔ Trims p text body := by
  constructor
  · -- the front is cut off first, and from what is left of the text the back
    rintro rfl
    have hfront := List.takeWhile_append_dropWhile (p := p) (l := text)
    have hback := List.takeWhile_append_dropWhile (p := p) (l := (text.dropWhile p).reverse)
    have hrest : text.dropWhile p =
        trimBy p text ++ ((text.dropWhile p).reverse.takeWhile p).reverse := by
      rw [trimBy, ← List.reverse_append, hback, List.reverse_reverse]
    have hmem (cs : List α) : ∀ c ∈ cs.takeWhile p, p c = true :=
      List.all_eq_true.1 List.all_takeWhile
    refine ⟨⟨text.takeWhile p, ((text.dropWhile p).reverse.takeWhile p).reverse, ?_, hmem _,
      fun c hc => hmem _ c (List.mem_reverse.1 hc)⟩, ?_, ?_⟩
    · rw [List.append_assoc, ← hrest, hfront]
    · intro c hc
      refine head_dropWhile text c ?_
      rw [hrest, List.head?_append, Option.mem_def.1 hc]
      rfl
    · rw [trimBy, List.getLast?_reverse]
      exact head_dropWhile _
  · rintro ⟨⟨front, back, rfl, hfront, hback⟩, hhead, hlast⟩
    cases body with
    | nil =>
      have hall : ∀ c ∈ front ++ [] ++ back, p c = true := by
        simpa [or_imp, forall_and] using ⟨hfront, hback⟩
      rw [trimBy, List.dropWhile_eq_nil_iff.2 hall]
      rfl
    | cons c body =>
      have hbehind : ∀ d ∈ back.reverse, p d = true := fun d hd => hback d (List.mem_reverse.1 hd)
      rw [← List.head?_reverse] at hlast
      rw [trimBy, List.append_assoc, dropWhile_append_of_head hfront (by simpa using hhead),
        List.reverse_append, dropWhile_append_of_head hbehind hlast, List.reverse_reverse]

end Text

/-- What is left of a text between blanks. -/
abbrev CodeText.TrimsTo (text body : CodeText) : Prop :=
  Text.Trims (CodePoint.isIn Text.isBlank) text body

theorem CodeText.trim_eq_iff {text body : CodeText} : text.trim = body ↔ text.TrimsTo body :=
  Text.trimBy_eq_iff

/-- The characters of a text are what it consists of. -/
theorem CodeText.chars?_eq_some_iff {text : CodeText} {cs : List Char} :
    text.chars? = some cs ↔ text = ofChars cs := by
  constructor
  · intro h
    unfold chars? at h
    split at h
    · cases h
    · rename_i hhalf
      have hnone : ∀ p ∈ text, CodePoint.isHalf p = false := by simpa using hhalf
      rw [← Option.some.inj h, ofChars_filterMap_char? hnone]
  · rintro rfl
    exact chars?_ofChars cs

/-! ### Numerals among texts -/

/-- A text is a numeral for a decimal between its blanks. -/
def CodeText.IsNumeral (text : CodeText) (d : Decimal) : Prop :=
  ∃ cs, text.TrimsTo (.ofChars cs) ∧ Numeral.Writes cs d

/-- An error says of a text what is wrong with it, and names it without its blanks. -/
inductive NumberError.Applies (text : CodeText) : NumberError → Prop
  | empty (hbody : text.TrimsTo []) : Applies text .empty
  | notANumber {body : CodeText} (hbody : text.TrimsTo body) (hne : body ≠ [])
      (hnone : ¬ ∃ d, text.IsNumeral d) : Applies text (.notANumber body)
  | notFinite {body : CodeText} {d : Decimal} (hbody : text.TrimsTo body)
      (hnumeral : text.IsNumeral d) (hsize : overflowSize ≤ |d.value|) :
      Applies text (.notFinite body)

namespace CodeText

variable {text : CodeText} {d : Decimal}

theorem isNumeral_iff : text.IsNumeral d ↔ text.trim.chars?.bind Numeral.read? = some d := by
  simp only [IsNumeral, Option.bind_eq_some_iff, chars?_eq_some_iff, trim_eq_iff,
    Numeral.read?_eq_some_iff]

/-- A numeral is not empty. -/
theorem IsNumeral.isEmpty_trim (h : text.IsNumeral d) : text.trim.isEmpty = false := by
  have hread := isNumeral_iff.1 h
  rw [List.isEmpty_eq_false_iff]
  intro hnil
  rw [hnil] at hread
  cases hread

end CodeText

section Reading

variable {text : CodeText} {d : Decimal}

/-- A numeral is read as its double, if that is finite. -/
theorem readNumber_of_isNumeral (h : text.IsNumeral d) :
    readNumber text =
      if d.toDouble.isFinite then .ok d.toDouble else .error (.notFinite text.trim) := by
  simp [readNumber, h.isEmpty_trim, CodeText.isNumeral_iff.1 h]

/-- A text that is no numeral is refused. -/
theorem readNumber_of_not_isNumeral (h : ¬ ∃ d, text.IsNumeral d) :
    readNumber text =
      if text.trim.isEmpty then .error .empty else .error (.notANumber text.trim) := by
  have hnone : text.trim.chars?.bind Numeral.read? = none := by
    rw [Option.eq_none_iff_forall_not_mem]
    exact fun d hd => h ⟨d, CodeText.isNumeral_iff.2 hd⟩
  simp [readNumber, hnone]

/-- **A text is read as a number** just if it is a numeral whose size is in the range: then it is
the nearest double. -/
theorem readNumber_eq_ok_iff {x : Double} :
    readNumber text = .ok x ↔
      ∃ d negative m, text.IsNumeral d ∧ |d.value| < overflowSize ∧ x = .finite negative m ∧
        d.RoundsTo negative m := by
  constructor
  · intro h
    by_cases hnumeral : ∃ d, text.IsNumeral d
    · obtain ⟨d, hd⟩ := hnumeral
      rw [readNumber_of_isNumeral hd] at h
      split at h
      · obtain rfl := Except.ok.inj h
        rename_i hfinite
        cases hx : d.toDouble with
        | finite negative m =>
          obtain ⟨hsize, hrounds⟩ := Decimal.toDouble_eq_finite_iff.1 hx
          rw [← Decimal.abs_value] at hsize
          exact ⟨d, negative, m, hd, hsize, rfl, Decimal.roundsTo_iff.2 hrounds⟩
        | nan => simp [hx, Double.isFinite] at hfinite
        | infinite negative => simp [hx, Double.isFinite] at hfinite
      · cases h
    · rw [readNumber_of_not_isNumeral hnumeral] at h
      split at h <;> cases h
  · rintro ⟨d, negative, m, hd, hsize, rfl, hrounds⟩
    rw [Decimal.abs_value] at hsize
    have hx := Decimal.toDouble_eq_finite_iff.2 ⟨hsize, Decimal.roundsTo_iff.1 hrounds⟩
    rw [readNumber_of_isNumeral hd, hx]
    rfl

/-- **A text is refused** with the error that applies to it. -/
theorem readNumber_eq_error_iff {e : NumberError} :
    readNumber text = .error e ↔ e.Applies text := by
  have htrim : text.TrimsTo text.trim := CodeText.trim_eq_iff.1 rfl
  constructor
  · intro h
    by_cases hnumeral : ∃ d, text.IsNumeral d
    · obtain ⟨d, hd⟩ := hnumeral
      rw [readNumber_of_isNumeral hd] at h
      split at h
      · cases h
      · rename_i hfinite
        obtain rfl := Except.error.inj h
        rw [Decimal.isFinite_toDouble_iff, not_lt, ← Decimal.abs_value] at hfinite
        exact .notFinite htrim hd hfinite
    · rw [readNumber_of_not_isNumeral hnumeral] at h
      split at h
      · rename_i hempty
        obtain rfl := Except.error.inj h
        rw [List.isEmpty_iff.1 hempty] at htrim
        exact .empty htrim
      · rename_i hempty
        obtain rfl := Except.error.inj h
        exact .notANumber htrim (by simpa using hempty) hnumeral
  · intro h
    cases h with
    | empty hbody => simp [readNumber, CodeText.trim_eq_iff.2 hbody]
    | notANumber hbody hne hnone =>
      rw [readNumber_of_not_isNumeral hnone, CodeText.trim_eq_iff.2 hbody]
      simp [hne]
    | notFinite hbody hnumeral hsize =>
      rw [Decimal.abs_value, ← not_lt, ← Decimal.isFinite_toDouble_iff] at hsize
      rw [readNumber_of_isNumeral hnumeral, if_neg hsize, CodeText.trim_eq_iff.2 hbody]

end Reading

/-- **All that reading a number gives.**  A text is accepted just if it is a numeral, blanks at its
ends aside, whose size is in the range, and what is returned then is the nearest double: of two
equally near ones the one whose last bit is zero.  Every other text is refused, with the error that
applies to it. -/
theorem readNumber_outcomes (text : CodeText) :
    ((∃ x, readNumber text = .ok x) ↔ ∃ d, text.IsNumeral d ∧ |d.value| < overflowSize) ∧
      (∀ x, readNumber text = .ok x ↔
        ∃ d negative m, text.IsNumeral d ∧ |d.value| < overflowSize ∧ x = .finite negative m ∧
          d.RoundsTo negative m) ∧
      ∀ e, readNumber text = .error e ↔ e.Applies text := by
  refine ⟨⟨?_, ?_⟩, fun x => readNumber_eq_ok_iff, fun e => readNumber_eq_error_iff⟩
  · rintro ⟨x, hx⟩
    obtain ⟨d, negative, m, hd, hsize, -⟩ := readNumber_eq_ok_iff.1 hx
    exact ⟨d, hd, hsize⟩
  · rintro ⟨d, hd, hsize⟩
    rw [Decimal.abs_value, ← Decimal.isFinite_toDouble_iff] at hsize
    exact ⟨d.toDouble, by rw [readNumber_of_isNumeral hd, if_pos hsize]⟩

end MetricIntake
