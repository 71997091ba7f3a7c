import Mathlib.Tactic.IntervalCases
import RollCall.Proofs.Timestamp

/-! The Gregorian calendar by its leap years and the lengths of its months. The date of a day is a
date of the calendar, and counting days by the calendar leads back from the date to the day. -/
namespace RollCall

/-- Every fourth year is a leap year, but of the years that end a century only every fourth. -/
def IsLeapYear (y : Int) : Prop := y % 4 = 0 ∧ (y % 100 ≠ 0 ∨ y % 400 = 0)

instance (y : Int) : Decidable (IsLeapYear y) := inferInstanceAs (Decidable (_ ∧ _))

def leapYears (y : Int) : Int := y / 4 - y / 100 + y / 400

theorem leapYears_sub (y : Int) :
    leapYears y - leapYears (y - 1) = if IsLeapYear y then 1 else 0 := by
  unfold leapYears
  by_cases h : IsLeapYear y
  · simp only [h, if_true]
    unfold IsLeapYear at h
    omega
  · simp only [h, if_false]
    unfold IsLeapYear at h
    omega

def monthLength (y : Int) (month : Nat) : Nat :=
  if month = 2 then if IsLeapYear y then 29 else 28
  else if month = 4 ∨ month = 6 ∨ month = 9 ∨ month = 11 then 30
  else 31

theorem monthLength_le (y : Int) (month : Nat) : monthLength y month ≤ 31 := by
  unfold monthLength
  split
  · split <;> omega
  · split <;> omega

def monthsLength (y : Int) : Nat → Nat
  | 0 => 0
  | month + 1 => monthsLength y month + monthLength y (month + 1)

theorem monthsLength_two (y : Int) :
    (monthsLength y 2 : Int) = 59 + (leapYears y - leapYears (y - 1)) := by
  rw [leapYears_sub]
  by_cases h : IsLeapYear y <;> simp [monthsLength, monthLength, h]

/-- From March on the months of a year follow one rule. -/
theorem monthsLength_of_two_le (y : Int) {before : Nat} (h : 2 ≤ before) (h' : before < 12) :
    monthsLength y before = monthsLength y 2 + (153 * (before - 2) + 2) / 5 := by
  interval_cases before <;> simp [monthsLength, monthLength]

namespace Date

variable {d : Date}

/-- A date of the calendar. -/
structure Valid (d : Date) : Prop where
  one_le_month : 1 ≤ d.month
  month_le : d.month ≤ 12
  one_le_day : 1 ≤ d.day
  day_le : d.day ≤ monthLength d.year d.month

/-- The days from the beginning of 1970 to the beginning of a year: 365 for each year, and one for
each leap year before it. -/
def daysToYear (y : Int) : Int := 365 * (y - 1970) + (leapYears (y - 1) - leapYears 1969)

/-- The number of a date, counted in days from the first of January 1970. -/
def dayNumber (d : Date) : Int :=
  daysToYear d.year + monthsLength d.year (d.month - 1) + d.day - 1

/-- The days before a year that begins in March, whatever era it lies in. -/
theorem daysBefore_era (y : Int) :
    y / 400 * 146097 + (daysBefore (y % 400).toNat : Int) = 365 * y + leapYears y := by
  unfold daysBefore leapYears
  omega

/-- The number of a date of the calendar is its day. -/
theorem toDay_eq_dayNumber (h : d.Valid) : d.toDay = d.dayNumber := by
  obtain ⟨hmonth, hmonth', hday, -⟩ := h
  obtain ⟨y, month, day⟩ := d
  dsimp only at hmonth hmonth' hday
  have hstart : leapYears 1969 = 477 := rfl
  unfold toDay dayNumber daysToYear
  dsimp only
  by_cases hwinter : month ≤ 2
  · have hera := daysBefore_era (y - 1)
    have hbefore : monthsLength y (month - 1) = (153 * (month + 9) + 2) / 5 - 306 := by
      interval_cases month <;> rfl
    simp only [hwinter, if_true]
    omega
  · have hera := daysBefore_era y
    have htwo := monthsLength_two y
    have hbefore := monthsLength_of_two_le y (show 2 ≤ month - 1 by omega) (by omega)
    simp only [hwinter, if_false]
    omega

/-- The first day of a year of an era lies in that year. -/
theorem yearOfDay_daysBefore {y : Nat} (h : y < 400) : yearOfDay (daysBefore y) = y := by
  generalize hd : daysBefore y = d
  unfold daysBefore at hd
  have hcentury : d / 36524 = y / 100 := by omega
  have hera : d / 146096 = 0 := by omega
  have hleap : d / 1460 = y / 4 := by omega
  unfold yearOfDay
  omega

/-- A year from March on ends with a leap day if the year in which it ends is a leap year. -/
theorem daysBefore_succ {y : Nat} (h : y + 1 < 400) (era : Int) :
    daysBefore (y + 1) = daysBefore y + 365 + if IsLeapYear (era * 400 + y + 1) then 1 else 0 := by
  have hera := daysBefore_era (era * 400 + y)
  have hera' := daysBefore_era (era * 400 + y + 1)
  have hleap := leapYears_sub (era * 400 + y + 1)
  have hmod : ((era * 400 + y) % 400).toNat = y := by omega
  have hmod' : ((era * 400 + y + 1) % 400).toNat = y + 1 := by omega
  rw [hmod] at hera
  rw [hmod'] at hera'
  rw [Int.add_sub_cancel] at hleap
  by_cases hyear : IsLeapYear (era * 400 + y + 1)
  · rw [if_pos hyear] at hleap ⊢
    omega
  · rw [if_neg hyear] at hleap ⊢
    omega

/-- Only a leap day can be the 366th from March on. -/
theorem isLeapYear_of_last_day {dayOfEra : Nat} (h : dayOfEra < 146097)
    (hlast : dayOfEra = daysBefore (yearOfDay dayOfEra) + 365) (era : Int) :
    IsLeapYear (era * 400 + yearOfDay dayOfEra + 1) := by
  obtain ⟨hyear, -, -⟩ := yearOfDay_bounds h
  generalize hy : yearOfDay dayOfEra = y at *
  by_cases hend : y = 399
  · unfold IsLeapYear
    omega
  by_contra hleap
  -- otherwise the day would be the first of the next year
  have hnext : daysBefore (y + 1) = dayOfEra := by
    rw [daysBefore_succ (by omega) era, if_neg hleap, hlast, Nat.add_zero]
  have hsame : yearOfDay dayOfEra = y + 1 := hnext ▸ yearOfDay_daysBefore (by omega)
  omega

/-- The date of a day is a date of the calendar. -/
theorem valid_ofDay (n : Int) : (ofDay n).Valid := by
  generalize hera : (n + 719468) / 146097 = era
  generalize hday : ((n + 719468) % 146097).toNat = dayOfEra
  have hlt : dayOfEra < 146097 := by omega
  obtain ⟨-, hbefore, hafter⟩ := yearOfDay_bounds hlt
  have hlast := fun h => isLeapYear_of_last_day hlt h era
  simp only [ofDay, hera, hday]
  rw [← yearOfDay, ← daysBefore]
  generalize yearOfDay dayOfEra = y at *
  generalize hdayOfYear : dayOfEra - daysBefore y = dayOfYear
  generalize hm : (5 * dayOfYear + 2) / 153 = march
  by_cases hspring : march < 10
  · have hmonth : ¬ march + 3 ≤ 2 := by omega
    simp only [hspring, if_true, hmonth, if_false]
    constructor <;> dsimp only [monthLength]
    · omega
    · omega
    · omega
    · have hlong : ¬ march + 3 = 2 := by omega
      rw [if_neg hlong]
      split <;> omega
  · have hwinter : march = 10 ∨ march = 11 := by omega
    have hmonth : march - 9 ≤ 2 := by omega
    simp only [hspring, if_false, hmonth, if_true]
    constructor <;> dsimp only [monthLength]
    · omega
    · omega
    · omega
    · obtain rfl | rfl := hwinter
      · simp
        omega
      · by_cases hleap : IsLeapYear (era * 400 + y + 1)
        · simp only [hleap, if_true]
          omega
        · have hshort : dayOfYear ≠ 365 := fun h => hleap (hlast (by omega))
          simp only [hleap, if_false, if_true]
          omega

/-- Counting by the calendar leads from the date of a day back to the day. -/
theorem dayNumber_ofDay (n : Int) : (ofDay n).dayNumber = n := by
  rw [← toDay_eq_dayNumber (valid_ofDay n), toDay_ofDay]

example : ofDay 0 = ⟨1970, 1, 1⟩ := rfl

end Date

end RollCall
