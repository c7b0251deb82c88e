import MetricIntake.Time.UtcTime
import Mathlib.Order.Nat

/-!
# Dates and their days

Dates that exist and day numbers below `Calendar.dayLimit` are the same thing in two forms:
`Date.dayNumber_ofDayNumber` and `Date.ofDayNumber_dayNumber`.  The years take up one stretch of
days after another (`Calendar.daysBeforeYear_succ`), and so do the months of a year.  With the time
of day the same follows for fields and microseconds: `TimeFields.micros_ofMicros`.
-/

namespace MetricIntake

namespace Calendar

/-! ### Years -/

/-- The number of days of a year. -/
def daysInYear (year : Nat) : Nat := if isLeap year then 366 else 365

theorem isLeap_eq_true_iff {year : Nat} :
    isLeap year = true ↔ year % 4 = 0 ∧ (year % 100 ≠ 0 ∨ year % 400 = 0) := by
  simp [isLeap]

/-- **A year starts where the one before it ends.** -/
theorem daysBeforeYear_succ {year : Nat} (h : 1 ≤ year) :
    daysBeforeYear (year + 1) = daysBeforeYear year + daysInYear year := by
  obtain ⟨y, rfl⟩ : ∃ y, year = y + 1 := ⟨year - 1, by omega⟩
  unfold daysBeforeYear daysInYear
  simp only [Nat.add_sub_cancel, isLeap_eq_true_iff]
  -- a quotient grows where the year is a multiple
  have h4 : (y + 1) / 4 = y / 4 + if (y + 1) % 4 = 0 then 1 else 0 := by split <;> omega
  have h100 : (y + 1) / 100 = y / 100 + if (y + 1) % 100 = 0 then 1 else 0 := by split <;> omega
  have h400 : (y + 1) / 400 = y / 400 + if (y + 1) % 400 = 0 then 1 else 0 := by split <;> omega
  have hsmall : y / 100 ≤ y := Nat.div_le_self y 100
  rw [h4, h100, h400]
  clear h4 h100 h400
  split_ifs <;> omega

theorem daysBeforeYear_mono {year year' : Nat} (h : year ≤ year') :
    daysBeforeYear year ≤ daysBeforeYear year' := by
  induction year', h using Nat.le_induction with
  | base => exact Nat.le_refl _
  | succ year' _ ih =>
    rcases Nat.eq_zero_or_pos year' with rfl | hpos
    · exact ih
    · rw [daysBeforeYear_succ hpos]
      exact Nat.le_add_right_of_le ih

/-- The days of the last year are the last ones below the limit. -/
theorem daysBeforeYear_le {year : Nat} (h : year ≤ lastYear + 1) :
    daysBeforeYear year ≤ dayLimit :=
  daysBeforeYear_mono h

/-! ### Months -/

/-- **A month starts where the one before it ends.** -/
theorem daysBeforeMonth_succ (year month : Nat) :
    daysBeforeMonth year (month + 1) = daysBeforeMonth year month + daysInMonth year month := by
  cases month with
  | zero => rfl
  | succ month => rfl

theorem daysBeforeMonth_mono (year : Nat) {month month' : Nat} (h : month ≤ month') :
    daysBeforeMonth year month ≤ daysBeforeMonth year month' := by
  induction month', h using Nat.le_induction with
  | base => exact Nat.le_refl _
  | succ month' _ ih =>
    rw [daysBeforeMonth_succ]
    omega

/-- Twelve months are a year. -/
theorem daysBeforeMonth_thirteen (year : Nat) : daysBeforeMonth year 13 = daysInYear year := by
  unfold daysInYear
  cases hleap : isLeap year <;> simp [daysBeforeMonth, daysInMonth, hleap]

/-- The search keeps to the day it looks for: it passes over whole months, and stops in a month that
has the day unless it may pass over no more. -/
theorem findMonth_spec (year fuel month n : Nat) :
    daysBeforeMonth year (findMonth year fuel month n).1 + (findMonth year fuel month n).2 =
        daysBeforeMonth year month + n ∧
      month ≤ (findMonth year fuel month n).1 ∧
      (((findMonth year fuel month n).2 < daysInMonth year (findMonth year fuel month n).1 ∧
          (findMonth year fuel month n).1 ≤ month + fuel) ∨
        (findMonth year fuel month n).1 = month + fuel) := by
  induction fuel generalizing month n with
  | zero => exact ⟨rfl, Nat.le_refl _, .inr rfl⟩
  | succ fuel ih =>
    rw [findMonth]
    split
    · rename_i hn
      exact ⟨rfl, Nat.le_refl _, .inl ⟨hn, Nat.le_add_right _ _⟩⟩
    · have hnext := ih (month + 1) (n - daysInMonth year month)
      rw [daysBeforeMonth_succ] at hnext
      omega

/-- Each day of a year is in one of its twelve months. -/
theorem findMonth_of_lt {year n : Nat} (h : n < daysInYear year) :
    ∃ month day, findMonth year 11 1 n = (month, day) ∧ (1 ≤ month ∧ month ≤ 12) ∧
      day < daysInMonth year month ∧ daysBeforeMonth year month + day = n := by
  obtain ⟨hday, hmonth, hstop⟩ := findMonth_spec year 11 1 n
  generalize findMonth year 11 1 n = found at hday hmonth hstop ⊢
  obtain ⟨month, day⟩ := found
  have hone : daysBeforeMonth year 1 = 0 := rfl
  have hlast := daysBeforeMonth_thirteen year
  dsimp only at hday hmonth hstop
  refine ⟨month, day, rfl, ?_⟩
  rcases hstop with ⟨hshort, hle⟩ | hend
  · exact ⟨⟨hmonth, hle⟩, hshort, by omega⟩
  · -- the search went on to December, which has the rest of the year
    obtain rfl : month = 12 := hend
    rw [daysBeforeMonth_succ] at hlast
    exact ⟨⟨hmonth, Nat.le_refl _⟩, by omega, by omega⟩

end Calendar

namespace Date

open Calendar

/-! ### Dates that exist -/

theorem isValid_eq_true_iff {d : Date} :
    d.isValid = true ↔ (1 ≤ d.year ∧ d.year ≤ lastYear) ∧ (1 ≤ d.month ∧ d.month ≤ 12) ∧
      1 ≤ d.day ∧ d.day ≤ daysInMonth d.year d.month := by
  simp [isValid, and_assoc]

/-- The day of a date within its year. -/
theorem dayOfYear_lt {d : Date} (h : d.isValid = true) :
    daysBeforeMonth d.year d.month + (d.day - 1) < daysInYear d.year := by
  obtain ⟨-, ⟨-, hmonth⟩, hone, hday⟩ := isValid_eq_true_iff.1 h
  have hnext := daysBeforeMonth_succ d.year d.month
  have hlast : daysBeforeMonth d.year (d.month + 1) ≤ daysInYear d.year :=
    daysBeforeMonth_thirteen d.year ▸ daysBeforeMonth_mono d.year (Nat.succ_le_succ hmonth)
  omega

/-- A date is on one of the days of its year. -/
theorem dayNumber_lt_daysBeforeYear_succ {d : Date} (h : d.isValid = true) :
    d.dayNumber < daysBeforeYear (d.year + 1) := by
  obtain ⟨⟨hyear, -⟩, -⟩ := isValid_eq_true_iff.1 h
  have hin := dayOfYear_lt h
  rw [daysBeforeYear_succ hyear]
  unfold dayNumber
  omega

/-- A date that exists is on a day below the limit. -/
theorem dayNumber_lt {d : Date} (h : d.isValid = true) : d.dayNumber < dayLimit := by
  obtain ⟨⟨-, hyear⟩, -⟩ := isValid_eq_true_iff.1 h
  exact Nat.lt_of_lt_of_le (dayNumber_lt_daysBeforeYear_succ h)
    (daysBeforeYear_le (Nat.succ_le_succ hyear))

/-- Dates on one day have one year. -/
theorem year_le_of_dayNumber_le {d e : Date} (he : e.isValid = true)
    (h : d.dayNumber ≤ e.dayNumber) : d.year ≤ e.year := by
  by_contra hlt
  have hend := dayNumber_lt_daysBeforeYear_succ he
  have hstart : daysBeforeYear (e.year + 1) ≤ daysBeforeYear d.year :=
    daysBeforeYear_mono (by omega)
  have hin : daysBeforeYear d.year ≤ d.dayNumber := by
    unfold dayNumber
    omega
  omega

/-- Dates on one day of one year have one month. -/
theorem month_le_of_dayNumber_le {d e : Date} (he : e.isValid = true) (hyear : d.year = e.year)
    (h : d.dayNumber ≤ e.dayNumber) : d.month ≤ e.month := by
  obtain ⟨-, -, hone, hday⟩ := isValid_eq_true_iff.1 he
  by_contra hlt
  have hstart : daysBeforeMonth e.year (e.month + 1) ≤ daysBeforeMonth e.year d.month :=
    daysBeforeMonth_mono e.year (by omega)
  rw [daysBeforeMonth_succ] at hstart
  unfold dayNumber at h
  rw [hyear] at h
  omega

/-- **No two dates are on one day.** -/
theorem dayNumber_inj {d e : Date} (hd : d.isValid = true) (he : e.isValid = true)
    (h : d.dayNumber = e.dayNumber) : d = e := by
  have hyear : d.year = e.year := Nat.le_antisymm (year_le_of_dayNumber_le he h.le)
    (year_le_of_dayNumber_le hd h.ge)
  have hmonth : d.month = e.month := Nat.le_antisymm (month_le_of_dayNumber_le he hyear h.le)
    (month_le_of_dayNumber_le hd hyear.symm h.ge)
  have hday : d.day = e.day := by
    obtain ⟨-, -, hd1, -⟩ := isValid_eq_true_iff.1 hd
    obtain ⟨-, -, he1, -⟩ := isValid_eq_true_iff.1 he
    unfold dayNumber at h
    rw [hyear, hmonth] at h
    omega
  cases d
  cases e
  simp_all

/-! ### The date of a day -/

/-- The year of a day number, by whole spans of years. -/
theorem exists_year (n : Nat) :
    ∃ year r, ofDayNumber n =
        { year, month := (findMonth year 11 1 r).1, day := (findMonth year 11 1 r).2 + 1 } ∧
      1 ≤ year ∧ r < daysInYear year ∧ n = daysBeforeYear year + r := by
  unfold ofDayNumber
  dsimp only
  -- the last span of each length may have one day more than the others
  generalize h400 : n / 146097 = n400
  generalize hr400 : n % 146097 = r400
  generalize h100 : min 3 (r400 / 36524) = n100
  generalize hr100 : r400 - n100 * 36524 = r100
  generalize h4 : r100 / 1461 = n4
  generalize hr4 : r100 % 1461 = r4
  generalize h1 : min 3 (r4 / 365) = n1
  generalize hr1 : r4 - n1 * 365 = r1
  have hn : n = 146097 * n400 + r400 := by omega
  have hb400 : r400 < 146097 := by omega
  have hs400 : r400 = 36524 * n100 + r100 := by omega
  have hb100 : n100 ≤ 3 ∧ (r100 < 36524 ∨ n100 = 3 ∧ r100 < 36525) := by omega
  have hs100 : r100 = 1461 * n4 + r4 := by omega
  have hb4 : n4 ≤ 24 ∧ r4 < 1461 := by omega
  have hs4 : r4 = 365 * n1 + r1 := by omega
  have hb1 : n1 ≤ 3 ∧ (r1 < 365 ∨ n1 = 3 ∧ r1 < 366) := by omega
  clear h400 hr400 h100 hr100 h4 hr4 h1 hr1
  refine ⟨n400 * 400 + n100 * 100 + n4 * 4 + n1 + 1, r1, rfl, Nat.le_add_left _ _, ?_, ?_⟩
  · unfold daysInYear
    split
    · omega
    · rename_i hleap
      rw [isLeap_eq_true_iff] at hleap
      omega
  · have h4 : (n400 * 400 + n100 * 100 + n4 * 4 + n1) / 4 = n400 * 100 + n100 * 25 + n4 := by omega
    have h100 : (n400 * 400 + n100 * 100 + n4 * 4 + n1) / 100 = n400 * 4 + n100 := by omega
    have h400 : (n400 * 400 + n100 * 100 + n4 * 4 + n1) / 400 = n400 := by omega
    unfold daysBeforeYear
    simp only [Nat.add_sub_cancel, h4, h100, h400]
    omega

/-- **A day below the limit is that of its date**, which exists. -/
theorem dayNumber_ofDayNumber {n : Nat} (h : n < dayLimit) :
    (ofDayNumber n).isValid = true ∧ (ofDayNumber n).dayNumber = n := by
  obtain ⟨year, r, hdate, hyear, hr, hn⟩ := exists_year n
  have hlast : year ≤ lastYear := by
    by_contra hlt
    have hlimit : dayLimit ≤ daysBeforeYear year :=
      daysBeforeYear_mono (show lastYear + 1 ≤ year by omega)
    omega
  obtain ⟨month, day, hfound, hmonth, hday, hsum⟩ := findMonth_of_lt hr
  rw [hdate, hfound]
  refine ⟨isValid_eq_true_iff.2 ⟨⟨hyear, hlast⟩, hmonth, Nat.le_add_left _ _, hday⟩, ?_⟩
  unfold dayNumber
  dsimp only
  omega

/-- **A date that exists is that of its day.** -/
theorem ofDayNumber_dayNumber {d : Date} (h : d.isValid = true) : ofDayNumber d.dayNumber = d := by
  obtain ⟨hvalid, hday⟩ := dayNumber_ofDayNumber (dayNumber_lt h)
  exact dayNumber_inj hvalid h hday

end Date

/-! ### Times of day -/

namespace TimeFields

theorem isValid_eq_true_iff {f : TimeFields} :
    f.isValid = true ↔ f.date.isValid = true ∧ f.hour < 24 ∧ f.minute < 60 ∧ f.second < 60 ∧
      f.micro < 1000000 := by
  simp [isValid, and_assoc]

/-- A time of day is within its day. -/
theorem micros_eq {f : TimeFields} (h : f.isValid = true) :
    ∃ r < microsPerDay, f.micros = f.date.dayNumber * microsPerDay + r := by
  obtain ⟨-, hhour, hminute, hsecond, hmicro⟩ := isValid_eq_true_iff.1 h
  refine ⟨((f.hour * 60 + f.minute) * 60 + f.second) * 1000000 + f.micro, ?_, ?_⟩
  · unfold microsPerDay
    omega
  · unfold micros
    omega

/-- **A number of microseconds is that of its fields**, which are valid. -/
theorem micros_ofMicros {n : Nat} (h : n < microsLimit) :
    (ofMicros n).isValid = true ∧ (ofMicros n).micros = n := by
  have hday : n / microsPerDay < Calendar.dayLimit :=
    Nat.div_lt_of_lt_mul (by rwa [Nat.mul_comm])
  obtain ⟨hvalid, hnumber⟩ := Date.dayNumber_ofDayNumber hday
  constructor
  · refine isValid_eq_true_iff.2 ⟨hvalid, ?_⟩
    unfold ofMicros microsPerDay
    dsimp only
    omega
  · unfold micros
    rw [show (ofMicros n).date = Date.ofDayNumber (n / microsPerDay) from rfl, hnumber]
    unfold ofMicros microsPerDay
    dsimp only
    omega

end TimeFields

end MetricIntake
