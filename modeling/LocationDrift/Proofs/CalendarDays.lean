import LocationDrift.Time.Civil
import Mathlib.Tactic.IntervalCases

/-!
# Day counts of the proleptic Gregorian calendar

`Civil.daysFromCivil` counts the days from 1970-01-01 to a date, and `Civil.civilFromDays` turns a
count back into a date. Both cut time into eras of 400 years, which all have 146097 days, and each
era into years that start on 1 March, so that a leap day is the last day of its year. Year `k` of an
era starts `eraYearStart k` days into the era and the month `mp` months after March starts
`monthStart mp` days into its year; `eraYearOf` and `monthOf` find the year and the month that hold
a day.

**Theorem (`civilFromDays_daysFromCivil`, `isDate_of_civilFromDays`).** On the dates of the calendar
(a month from 1 to 12, a day within it, any year) the two functions are inverse: the count of a date
gives the date back, and every integer is the count of the date `civilFromDays` gives for it.
-/

namespace LocationDrift

namespace Civil

/-- A date of the proleptic Gregorian calendar: a month from 1 to 12 and a day within it, any year. -/
@[mk_iff] structure IsDate (y : Int) (m d : Nat) : Prop where
  month_pos : 1 ≤ m
  month_le : m ≤ 12
  day_pos : 1 ≤ d
  day_le : d ≤ daysInMonth y m

instance (y : Int) (m d : Nat) : Decidable (IsDate y m d) :=
  decidable_of_iff _ (isDate_iff y m d).symm

theorem isLeap_iff (y : Int) : isLeap y = true ↔ y % 4 = 0 ∧ (y % 100 ≠ 0 ∨ y % 400 = 0) := by
  simp [isLeap]

/-- Leap years repeat every 400 years. -/
theorem isLeap_congr {a b : Int} (h : a % 400 = b % 400) : isLeap a = isLeap b := by
  apply Bool.eq_iff_iff.2
  rw [isLeap_iff, isLeap_iff]
  omega

/-! ## Years of an era -/

/-- Days from the start of an era to 1 March of its year `k`. -/
def eraYearStart (k : Int) : Int := 365 * k + k / 4 - k / 100

/-- The year of an era, counted from 1 March, that holds its day `doe`. -/
def eraYearOf (doe : Int) : Int := (doe - doe / 1460 + doe / 36524 - doe / 146096) / 365

/-- The days of year `k` of an era: 366 when the February that ends it has a 29th. -/
def eraYearLength (k : Int) : Int := if isLeap (k + 1) then 366 else 365

theorem eraYearLength_ge (k : Int) : 365 ≤ eraYearLength k := by
  unfold eraYearLength; split <;> omega

theorem eraYearLength_le (k : Int) : eraYearLength k ≤ 366 := by
  unfold eraYearLength; split <;> omega

theorem eraYearLength_of_leap {k : Int} (h4 : (k + 1) % 4 = 0) (h100 : (k + 1) % 100 ≠ 0) :
    eraYearLength k = 366 := by
  rw [eraYearLength, if_pos ((isLeap_iff _).2 ⟨h4, Or.inl h100⟩)]

/-- A year of 366 days is followed by a leap year. -/
theorem leap_of_eraYearLength {k : Int} (h : eraYearLength k = 366) :
    (k + 1) % 4 = 0 ∧ ((k + 1) % 100 ≠ 0 ∨ (k + 1) % 400 = 0) := by
  unfold eraYearLength at h
  split at h
  · next hl => exact (isLeap_iff _).1 hl
  · omega

/-- Day `j` of year `k` of an era lies in year `k`. -/
theorem eraYearOf_eraYearStart_add {k j : Int} (hk0 : 0 ≤ k) (hk : k ≤ 399) (hj0 : 0 ≤ j)
    (hj : j < eraYearLength k) : eraYearOf (eraYearStart k + j) = k := by
  have hlen := eraYearLength_le k
  unfold eraYearOf eraYearStart
  by_cases hlong : j = 365
  · -- the leap day that ends a year
    have hleap := leap_of_eraYearLength (k := k) (by omega)
    by_cases h399 : k = 399
    · subst h399 hlong; decide
    · have hs : k % 100 ≠ 99 := by rcases hleap.2 with h | h <;> omega
      have ht : k % 4 = 3 := by omega
      rw [show (365 * k + k / 4 - k / 100 + j) / 36524 = k / 100 by omega,
        show (365 * k + k / 4 - k / 100 + j) / 146096 = 0 by omega,
        show (365 * k + k / 4 - k / 100 + j) / 1460 = k / 4 + 1 by omega]
      omega
  · -- a four-year cycle counts its days in steps of 1460, one too few after its leap day
    have hq : (365 * k + k / 4 - k / 100 + j) / 1460 = k / 4 +
        (if 24 * (k / 100) + k % 100 / 4 + 365 * (k % 4) + j ≥ 1460 then 1 else 0) := by
      split <;> omega
    rw [show (365 * k + k / 4 - k / 100 + j) / 36524 = k / 100 by omega,
      show (365 * k + k / 4 - k / 100 + j) / 146096 = 0 by omega, hq]
    split <;> omega

/-- An era's year given by its century, its four-year cycle and its year in the cycle. -/
theorem eraYearStart_cycles {g p t : Int} (hp0 : 0 ≤ p) (hp : p ≤ 24) (ht0 : 0 ≤ t) (ht : t ≤ 3) :
    eraYearStart (100 * g + 4 * p + t) = 36524 * g + 1461 * p + 365 * t := by
  unfold eraYearStart; omega

/-- Every day of an era lies in the year `eraYearOf` names, within that year's length. -/
theorem eraYearOf_spec {doe : Int} (h0 : 0 ≤ doe) (h1 : doe ≤ 146096) :
    0 ≤ eraYearOf doe ∧ eraYearOf doe ≤ 399 ∧ eraYearStart (eraYearOf doe) ≤ doe ∧
      doe < eraYearStart (eraYearOf doe) + eraYearLength (eraYearOf doe) := by
  by_cases hlast : doe = 146096
  · subst hlast; decide
  -- centuries of 36524 days, four-year cycles of 1461 days, and the days left
  obtain ⟨g, p, s, hdoe, hg0, hg, hp0, hp, hs0, hs, hps⟩ : ∃ g p s : Int,
      doe = 36524 * g + 1461 * p + s ∧ 0 ≤ g ∧ g ≤ 3 ∧ 0 ≤ p ∧ p ≤ 24 ∧ 0 ≤ s ∧ s ≤ 1460 ∧
        (p = 24 → s ≤ 1459) :=
    ⟨doe / 36524, doe % 36524 / 1461, doe % 36524 % 1461, by omega, by omega, by omega, by omega,
      by omega, by omega, by omega, by omega⟩
  -- steps of 1460 days overshoot by one late in a four-year cycle
  obtain ⟨b, hb, hq, hbs⟩ : ∃ b : Int, (b = 0 ∨ b = 1) ∧ doe / 1460 = 25 * g + p + b ∧
      (b = 1 ↔ 1460 - 24 * g - p ≤ s) := by
    by_cases hs' : 1460 - 24 * g - p ≤ s
    · exact ⟨1, Or.inr rfl, by omega, by omega⟩
    · exact ⟨0, Or.inl rfl, by omega, by omega⟩
  obtain ⟨t, ht0, ht, hts⟩ : ∃ t : Int, 0 ≤ t ∧ t ≤ 3 ∧ (s - b) / 365 = t :=
    ⟨(s - b) / 365, by omega, by omega, rfl⟩
  have hk : eraYearOf doe = 100 * g + 4 * p + t := by
    rw [eraYearOf, show doe / 36524 = g by omega, show doe / 146096 = 0 by omega, hq]
    omega
  have hstart := eraYearStart_cycles (g := g) hp0 hp ht0 ht
  have hlen := eraYearLength_ge (100 * g + 4 * p + t)
  rw [hk, hstart]
  refine ⟨by omega, by omega, by omega, ?_⟩
  by_cases hend : s - 365 * t ≤ 364
  · omega
  · -- the 366th day of a year is the leap day that ends it
    have ht3 : t = 3 := by omega
    have hp23 : p ≤ 23 := by omega
    have hlong : eraYearLength (100 * g + 4 * p + t) = 366 := by
      subst ht3
      exact eraYearLength_of_leap (by omega) (by omega)
    omega

/-! ## Months of a year that starts on 1 March -/

/-- Days from 1 March to the first of the month `mp` months later. -/
def monthStart (mp : Int) : Int := (153 * mp + 2) / 5

/-- The month, counted from March, that holds day `j` of a year that starts on 1 March. -/
def monthOf (j : Int) : Int := (5 * j + 2) / 153

/-- A calendar month counted from March: March is 0 and February 11. -/
def marchMonth (m : Nat) : Int := if m > 2 then (m : Int) - 3 else (m : Int) + 9

/-- The year that starts on the 1 March before a date: January and February count with the year
before. -/
def marchYear (y : Int) (m : Nat) : Int := if m ≤ 2 then y - 1 else y

/-- The date of day `j` of the year that starts on 1 March of `y`. -/
def marchDate (y j : Int) : Int × Nat × Nat :=
  let mp := monthOf j
  let m := if mp < 10 then mp + 3 else mp - 9
  ((if m ≤ 2 then y + 1 else y), m.toNat, (j - monthStart mp + 1).toNat)

theorem monthOf_monthStart_add {mp j : Int} (hj0 : 0 ≤ j)
    (hj : j < monthStart (mp + 1) - monthStart mp) : monthOf (monthStart mp + j) = mp := by
  unfold monthOf monthStart at *
  omega

theorem monthOf_spec {j : Int} (h0 : 0 ≤ j) (h1 : j ≤ 365) :
    0 ≤ monthOf j ∧ monthOf j ≤ 11 ∧ monthStart (monthOf j) ≤ j ∧
      j < monthStart (monthOf j + 1) := by
  unfold monthOf monthStart
  omega

/-- Every month but February spans exactly the stretch from its start to the next month's. -/
theorem daysInMonth_eq_monthStart (y : Int) {m : Nat} (hm1 : 1 ≤ m) (hm2 : m ≤ 12) (hfeb : m ≠ 2) :
    (daysInMonth y m : Int) = monthStart (marchMonth m + 1) - monthStart (marchMonth m) := by
  interval_cases m <;> simp_all [daysInMonth, marchMonth, monthStart]

/-- A month is no longer than the stretch from its start to the next month's. -/
theorem daysInMonth_le_monthStart (y : Int) {m : Nat} (hm1 : 1 ≤ m) (hm2 : m ≤ 12) :
    (daysInMonth y m : Int) ≤ monthStart (marchMonth m + 1) - monthStart (marchMonth m) := by
  by_cases hfeb : m = 2
  · -- February, the last month of a March year, has at most 29 days and 30 before the next March
    subst hfeb
    have hleap : daysInMonth y 2 ≤ 29 := by rw [daysInMonth, if_pos rfl]; split <;> omega
    have hstretch : monthStart (marchMonth 2 + 1) - monthStart (marchMonth 2) = 30 := rfl
    omega
  · exact (daysInMonth_eq_monthStart y hm1 hm2 hfeb).le

/-- The day of its March year that a date is, read back, is the date. -/
theorem marchDate_of_isDate {y : Int} {m d : Nat} (h : IsDate y m d) :
    marchDate (marchYear y m) (monthStart (marchMonth m) + d - 1) = (y, m, d) := by
  obtain ⟨hm1, hm2, hd1, hd2⟩ := h
  have hlen := daysInMonth_le_monthStart y hm1 hm2
  have hmonth : monthOf (monthStart (marchMonth m) + d - 1) = marchMonth m := by
    rw [Int.add_sub_assoc]
    exact monthOf_monthStart_add (by omega) (by omega)
  unfold marchDate
  rw [hmonth]
  unfold marchYear marchMonth
  split <;> simp <;> omega

/-- A day of a March year, within the year's length, is a date of the calendar whose March year
and day of that year it is. -/
theorem marchDate_isDate {y' j : Int} (h0 : 0 ≤ j) (h1 : j < if isLeap (y' + 1) then 366 else 365)
    {y : Int} {m d : Nat} (h : marchDate y' j = (y, m, d)) :
    IsDate y m d ∧ marchYear y m = y' ∧ monthStart (marchMonth m) + d - 1 = j := by
  have hj : j ≤ 365 := by split at h1 <;> omega
  obtain ⟨hmp0, hmp1, hstart, hnext⟩ := monthOf_spec h0 hj
  unfold marchDate at h
  simp only [Prod.mk.injEq] at h
  obtain ⟨hy, hm, hd⟩ := h
  generalize monthOf j = mp at *
  -- the month counted from March is the one that holds the day, and the year turns in January
  have hmonth : marchMonth m = mp ∧ 1 ≤ m ∧ m ≤ 12 := by
    unfold marchMonth
    split_ifs at hm ⊢ <;> omega
  obtain ⟨hmm, hm1, hm2⟩ := hmonth
  have hyear : y = if m ≤ 2 then y' + 1 else y' := by
    subst hy
    split_ifs <;> omega
  refine ⟨⟨hm1, hm2, by omega, ?_⟩, ?_, by rw [hmm]; omega⟩
  · -- the day lies within its month; February ends where the year does
    by_cases hfeb : m = 2
    · subst hfeb
      have hmp : mp = 11 := by rw [← hmm]; rfl
      subst hmp
      rw [if_pos (by decide)] at hyear
      subst hyear
      have h11 : monthStart 11 = 337 := rfl
      by_cases hl : isLeap (y' + 1) = true <;> simp [daysInMonth, hl] at h1 ⊢ <;> omega
    · have hlen := daysInMonth_eq_monthStart y hm1 hm2 hfeb
      rw [hmm] at hlen
      omega
  · unfold marchYear
    split_ifs at hyear ⊢ <;> omega

/-- A date's day of its March year lies within that year's length. -/
theorem IsDate.dayOfYear_lt {y : Int} {m d : Nat} (h : IsDate y m d) :
    0 ≤ monthStart (marchMonth m) + d - 1 ∧
      monthStart (marchMonth m) + d - 1 < eraYearLength (marchYear y m % 400) := by
  obtain ⟨hm1, hm2, hd1, hd2⟩ := h
  have hlen := eraYearLength_ge (marchYear y m % 400)
  by_cases hfeb : m = 2
  · -- February ends the March year, and has a 29th when that year ends with a leap day
    subst hfeb
    have hfebLen : eraYearLength (marchYear y 2 % 400) = if isLeap y then 366 else 365 := by
      rw [eraYearLength, isLeap_congr (b := y) (by unfold marchYear; omega)]
    rw [hfebLen, show monthStart (marchMonth 2) = 337 by decide]
    simp only [daysInMonth] at hd2
    by_cases hl : isLeap y = true <;> simp [hl] at hd2 ⊢ <;> omega
  · -- every other month ends by the end of January, day 336
    have hmonth := daysInMonth_le_monthStart y hm1 hm2
    have hbefore : monthStart (marchMonth m + 1) ≤ 337 := by
      unfold marchMonth monthStart; split <;> omega
    have hstart : 0 ≤ monthStart (marchMonth m) := by
      unfold marchMonth monthStart; split <;> omega
    omega

/-! ## Counting days -/

/-- A count of days read in eras: the era, then the day of the era, which lies in the year
`eraYearOf` names. -/
theorem civilFromDays_era (era : Int) {doe : Int} (h0 : 0 ≤ doe) (h1 : doe ≤ 146096) :
    civilFromDays (era * 146097 + doe - 719468) =
      marchDate (eraYearOf doe + era * 400) (doe - eraYearStart (eraYearOf doe)) := by
  have hera : (era * 146097 + doe - 719468 + 719468) / 146097 = era := by omega
  simp only [civilFromDays, hera,
    show era * 146097 + doe - 719468 + 719468 - era * 146097 = doe by omega]
  rfl

/-- The count of a date read in eras: the era of its March year, then the day of the era. -/
theorem daysFromCivil_era (y : Int) (m d : Nat) :
    daysFromCivil y m d = marchYear y m / 400 * 146097 +
      (eraYearStart (marchYear y m % 400) + (monthStart (marchMonth m) + d - 1)) - 719468 := by
  simp only [daysFromCivil, eraYearStart, monthStart, marchYear, marchMonth]
  split_ifs <;> omega

/-- **The count of a date gives the date back.** -/
theorem civilFromDays_daysFromCivil {y : Int} {m d : Nat} (h : IsDate y m d) :
    civilFromDays (daysFromCivil y m d) = (y, m, d) := by
  obtain ⟨hj0, hj⟩ := h.dayOfYear_lt
  have hk0 : 0 ≤ marchYear y m % 400 := Int.emod_nonneg _ (by decide)
  have hk : marchYear y m % 400 ≤ 399 := by omega
  have hstart : eraYearStart (marchYear y m % 400) ≤ 145731 := by unfold eraYearStart; omega
  have hlen := eraYearLength_le (marchYear y m % 400)
  rw [daysFromCivil_era, civilFromDays_era _ (by unfold eraYearStart at *; omega) (by omega),
    eraYearOf_eraYearStart_add hk0 hk hj0 hj,
    show ∀ a b : Int, a + b - a = b by omega,
    show marchYear y m % 400 + marchYear y m / 400 * 400 = marchYear y m by omega]
  exact marchDate_of_isDate h

/-- **Every count of days is the count of a date:** the date `civilFromDays` gives for it. -/
theorem isDate_of_civilFromDays {z y : Int} {m d : Nat} (h : civilFromDays z = (y, m, d)) :
    IsDate y m d ∧ daysFromCivil y m d = z := by
  -- the era of the count and its day within the era
  obtain ⟨era, doe, h0, h1, rfl⟩ : ∃ era doe : Int,
      0 ≤ doe ∧ doe ≤ 146096 ∧ z = era * 146097 + doe - 719468 :=
    ⟨(z + 719468) / 146097, (z + 719468) % 146097, by omega, by omega, by omega⟩
  obtain ⟨hk0, hk, hs, hl⟩ := eraYearOf_spec h0 h1
  rw [civilFromDays_era era h0 h1] at h
  have hsame : isLeap (eraYearOf doe + era * 400 + 1) = isLeap (eraYearOf doe + 1) :=
    isLeap_congr (by omega)
  have hlen : doe - eraYearStart (eraYearOf doe) <
      if isLeap (eraYearOf doe + era * 400 + 1) then 366 else 365 := by
    rw [hsame]
    unfold eraYearLength at hl
    omega
  obtain ⟨hdate, hyear, hday⟩ := marchDate_isDate (by omega) hlen h
  refine ⟨hdate, ?_⟩
  rw [daysFromCivil_era, hyear, hday, show (eraYearOf doe + era * 400) / 400 = era by omega,
    show (eraYearOf doe + era * 400) % 400 = eraYearOf doe by omega]
  omega

end Civil

end LocationDrift
