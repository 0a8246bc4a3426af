/-
# Dates and day numbers

A date is found again from the number of its day. Years are counted from March, so that the leap
day comes last: a day is then given by its year and its number within the year, and a year by four
numbers, namely its era of 400 years, its century in the era, its group of four years in the
century and its place in the group.

## Main definitions

* `Calendar.Valid`: a date that exists;
* `Calendar.marchYear`, `Calendar.dayOfYear`: the year counted from March, and the day in it.

## Main results

* `Calendar.yearOfEra_eq`: the year of an era that a day of the era belongs to;
* `Calendar.ofDays_days`: a date that exists is found again from the number of its day.
-/

import Accord.Primitive.Timestamp
import Mathlib.Tactic.IntervalCases

namespace Accord.Calendar

variable {c : Calendar}

/-- A date that exists. -/
structure Valid (c : Calendar) : Prop where
  month : 1 ≤ c.month ∧ c.month ≤ 12
  day : 1 ≤ c.day ∧ c.day ≤ monthLength c.year c.month

/-! ### Years from March -/

/-- The year of a date, counted from March. -/
def marchYear (c : Calendar) : Int := if c.month ≤ 2 then c.year - 1 else c.year

/-- The month of a date, counted from March. -/
def marchMonth (c : Calendar) : Int := if c.month ≤ 2 then c.month + 9 else (c.month : Int) - 3

/-- The day of the year on which a month counted from March begins. -/
def monthStart (month : Int) : Int := (153 * month + 2) / 5

/-- The days of a year counted from March that are over at a date. -/
def dayOfYear (c : Calendar) : Int := monthStart c.marchMonth + c.day - 1

/-- The date of a day in a year that is counted from March. -/
def ofMarch (year dayOfYear : Int) : Calendar :=
  let shifted := (5 * dayOfYear + 2) / 153
  let day := dayOfYear - monthStart shifted + 1
  let month := if shifted < 10 then shifted + 3 else shifted - 9
  ⟨if month ≤ 2 then year + 1 else year, month.toNat, day.toNat⟩

/-- A year counted from March ends with a leap day if the next year is a leap year. -/
def EndsWithLeapDay (year : Int) : Prop := year % 4 = 3 ∧ (year % 100 ≠ 99 ∨ year % 400 = 399)

theorem isLeap_iff {year : Int} :
    isLeap year = true ↔ year % 4 = 0 ∧ (year % 100 ≠ 0 ∨ year % 400 = 0) := by
  simp [isLeap]

theorem monthLength_le (year : Int) (month : Nat) : monthLength year month ≤ 31 := by
  unfold monthLength
  split
  · split <;> decide
  all_goals decide

/-- A month but February ends where the next one begins. -/
theorem monthLength_eq (hmonth : 1 ≤ c.month ∧ c.month ≤ 12) (hfebruary : c.month ≠ 2) :
    (monthLength c.year c.month : Int) =
      monthStart (c.marchMonth + 1) - monthStart c.marchMonth := by
  obtain ⟨year, month, day⟩ := c
  obtain ⟨hlow, hhigh⟩ := hmonth
  dsimp only at hlow hhigh hfebruary
  interval_cases month
  case «2» => exact absurd rfl hfebruary
  all_goals simp [monthLength, monthStart, marchMonth]

/-- A day of February is one of the first 28, or the leap day that ends its year from March. -/
theorem february_cases (h : c.Valid) (hfebruary : c.month = 2) :
    c.day ≤ 28 ∨ c.day = 29 ∧ EndsWithLeapDay (c.year - 1) := by
  have hday := h.day.2
  rw [hfebruary] at hday
  simp only [monthLength] at hday
  split at hday
  · next hleap =>
    rw [isLeap_iff] at hleap
    unfold EndsWithLeapDay
    omega
  · exact .inl hday

/-- The month is found again from the number of the day, which is below 365 or that of a leap
day. -/
theorem Valid.month_of_dayOfYear (h : c.Valid) :
    (5 * c.dayOfYear + 2) / 153 = c.marchMonth ∧ 0 ≤ c.dayOfYear ∧
      (c.dayOfYear ≤ 364 ∨ c.dayOfYear = 365 ∧ EndsWithLeapDay c.marchYear) := by
  have hmonth := h.month
  have hday := h.day
  unfold dayOfYear
  -- Only February has a length that depends on the year.
  by_cases hfebruary : c.month = 2
  · have hmarch : c.marchMonth = 11 := by simp [marchMonth, hfebruary]
    have hyear : c.marchYear = c.year - 1 := by simp [marchYear, hfebruary]
    have hstart : monthStart 11 = 337 := by decide
    rw [hmarch, hyear, hstart]
    rcases february_cases h hfebruary with hcommon | ⟨hleap, hends⟩
    · omega
    · exact ⟨by omega, by omega, .inr ⟨by omega, hends⟩⟩
  · have hlength := monthLength_eq hmonth hfebruary
    have hmarch : 0 ≤ c.marchMonth ∧ c.marchMonth ≤ 10 := by
      unfold marchMonth
      split <;> omega
    unfold monthStart at hlength ⊢
    omega

/-- A date that exists is found again from its year and its day, counted from March. -/
theorem Valid.ofMarch_eq (h : c.Valid) : ofMarch c.marchYear c.dayOfYear = c := by
  obtain ⟨hshifted, -, -⟩ := h.month_of_dayOfYear
  unfold ofMarch
  dsimp only
  rw [hshifted]
  obtain ⟨year, month, day⟩ := c
  obtain ⟨⟨hmonth, hmonth'⟩, hday, -⟩ := h
  dsimp only at hmonth hmonth' hday
  unfold dayOfYear monthStart marchMonth marchYear
  by_cases hearly : month ≤ 2
  · simp only [hearly, if_true, mk.injEq]
    omega
  · simp only [hearly, if_false, mk.injEq]
    omega

/-! ### Years of an era -/

/-- The year of an era that a day of the era belongs to. The year is given by its century, its
group of four years in the century, and its place in the group. -/
theorem yearOfEra_eq {century group place day e : Int} (hcentury : 0 ≤ century ∧ century ≤ 3)
    (hgroup : 0 ≤ group ∧ group ≤ 24) (hplace : 0 ≤ place ∧ place ≤ 3) (hday : 0 ≤ day)
    (hlast : day ≤ 364 ∨ day = 365 ∧ place = 3 ∧ (group < 24 ∨ century = 3))
    (he : e = 36524 * century + 1461 * group + 365 * place + day) :
    (e - e / 1460 + e / 36524 - e / 146096) / 365 = 100 * century + 4 * group + place := by
  have hcenturies : e / 36524 - e / 146096 = century := by
    by_cases hend : e = 146096
    · omega
    · have hera : e / 146096 = 0 := by omega
      have hwithin : 36524 * century ≤ e ∧ e < 36524 * century + 36524 := by omega
      omega
  -- The leap days so far are counted exactly, or one too many late in a group.
  have hgroups : e / 1460 = 25 * century + group ∨ e / 1460 = 25 * century + group + 1 := by
    have hwithin : 1460 * (25 * century + group) ≤ e ∧
        e < 1460 * (25 * century + group + 2) := by omega
    omega
  have hyears : 365 * (100 * century + 4 * group + place) ≤ e - e / 1460 + century ∧
      e - e / 1460 + century < 365 * (100 * century + 4 * group + place) + 365 := by
    rcases hgroups with hgroups | hgroups
    · omega
    · omega
  omega

/-- The day of an era on which a day of a year falls. -/
def dayOfEra (year day : Int) : Int := year * 365 + year / 4 - year / 100 + day

theorem yearOfEra_dayOfEra {year day : Int} (hyear : 0 ≤ year ∧ year < 400) (hday : 0 ≤ day)
    (hlast : day ≤ 364 ∨ day = 365 ∧ EndsWithLeapDay year) :
    (dayOfEra year day - dayOfEra year day / 1460 + dayOfEra year day / 36524 -
      dayOfEra year day / 146096) / 365 = year := by
  unfold EndsWithLeapDay at hlast
  have hparts : year = 100 * (year / 100) + 4 * (year % 100 / 4) + year % 4 := by omega
  have he : dayOfEra year day =
      36524 * (year / 100) + 1461 * (year % 100 / 4) + 365 * (year % 4) + day := by
    unfold dayOfEra
    omega
  have hyears := yearOfEra_eq (by omega) (by omega) (by omega) hday (by omega) he
  rw [hyears]
  exact hparts.symm

/-- A day of an era is below 146097, the number of its days. -/
theorem dayOfEra_bounds {year day : Int} (hyear : 0 ≤ year ∧ year < 400) (hday : 0 ≤ day)
    (hlast : day ≤ 364 ∨ day = 365 ∧ EndsWithLeapDay year) :
    0 ≤ dayOfEra year day ∧ dayOfEra year day < 146097 := by
  unfold EndsWithLeapDay at hlast
  unfold dayOfEra
  omega

/-! ### Day numbers -/

theorem days_eq (c : Calendar) :
    c.days = c.marchYear / 400 * 146097 + dayOfEra (c.marchYear % 400) c.dayOfYear - 719468 := by
  have hyear : c.marchYear % 400 = c.marchYear - c.marchYear / 400 * 400 := by omega
  rw [hyear, ← Int.fdiv_eq_ediv_of_nonneg c.marchYear (by decide)]
  rfl

/-- The date of a day of an era. -/
theorem ofDays_eq {era year day : Int} (hyear : 0 ≤ year ∧ year < 400) (hday : 0 ≤ day)
    (hlast : day ≤ 364 ∨ day = 365 ∧ EndsWithLeapDay year) :
    ofDays (era * 146097 + dayOfEra year day - 719468) = ofMarch (year + era * 400) day := by
  have hbounds := dayOfEra_bounds hyear hday hlast
  have hyears := yearOfEra_dayOfEra hyear hday hlast
  have hera : Int.fdiv (era * 146097 + dayOfEra year day - 719468 + 719468) 146097 = era := by
    rw [Int.fdiv_eq_ediv_of_nonneg _ (by decide)]
    omega
  have hrest : era * 146097 + dayOfEra year day - 719468 + 719468 - era * 146097 =
      dayOfEra year day := by omega
  have hday' : dayOfEra year day - (365 * year + year / 4 - year / 100) = day := by
    unfold dayOfEra
    omega
  unfold ofDays
  dsimp only
  rw [hera, hrest, hyears, hday']
  rfl

/-- A date that exists is found again from the number of its day. -/
theorem ofDays_days (h : c.Valid) : ofDays c.days = c := by
  obtain ⟨-, hday, hlast⟩ := h.month_of_dayOfYear
  have hlast' : c.dayOfYear ≤ 364 ∨
      c.dayOfYear = 365 ∧ EndsWithLeapDay (c.marchYear % 400) := by
    unfold EndsWithLeapDay at hlast ⊢
    omega
  rw [days_eq, ofDays_eq (by omega) hday hlast']
  have hyear : c.marchYear % 400 + c.marchYear / 400 * 400 = c.marchYear := by omega
  rw [hyear]
  exact h.ofMarch_eq

example : ofDays (days ⟨2000, 2, 29⟩) = ⟨2000, 2, 29⟩ := by decide

end Accord.Calendar
