import Mathlib
import TableTransfer.Calendar.Basic

namespace TableTransfer

namespace CivilDate

/-- A day of four hundred years that begin in March: its century, the group of four years in the
century, the year in the group and the day in the year, all counted from 0. The last year of a group
has a day more, but of the groups that end a century just the last of all. -/
structure EraDay where
  century : Int
  group : Int
  year : Int
  day : Int
  century_mem : 0 ≤ century ∧ century ≤ 3
  group_mem : 0 ≤ group ∧ group ≤ 24
  year_mem : 0 ≤ year ∧ year ≤ 3
  day_mem : 0 ≤ day ∧ day ≤ 365
  of_last : day = 365 → year = 3 ∧ (group = 24 → century = 3)

namespace EraDay

variable (e : EraDay)

def dayOfGroup : Int := e.year * 365 + e.day

def dayOfEra : Int := e.century * 36524 + e.group * 1461 + e.dayOfGroup

def yearOfEra : Int := e.century * 100 + e.group * 4 + e.year

theorem exists_dayOfEra_eq {n : Int} (h0 : 0 ≤ n) (h : n < 146097) :
    ∃ e : EraDay, e.dayOfEra = n := by
  obtain ⟨century, hcentury⟩ : ∃ c : Int, c = min (n / 36524) 3 := ⟨_, rfl⟩
  obtain ⟨group, hgroup⟩ : ∃ g : Int, g = (n - century * 36524) / 1461 := ⟨_, rfl⟩
  obtain ⟨year, hyear⟩ : ∃ y : Int,
    y = min ((n - century * 36524 - group * 1461) / 365) 3 := ⟨_, rfl⟩
  refine ⟨⟨century, group, year, n - century * 36524 - group * 1461 - year * 365,
    by omega, by omega, by omega, by omega, by omega⟩, ?_⟩
  simp only [dayOfEra, dayOfGroup]
  omega

theorem dayOfGroup_mem : 0 ≤ e.dayOfGroup ∧ e.dayOfGroup ≤ 1460 := by
  have hyear := e.year_mem
  have hday := e.day_mem
  have hlast := e.of_last
  rw [dayOfGroup]
  omega

theorem dayOfCentury_mem : 0 ≤ e.group * 1461 + e.dayOfGroup ∧
    e.group * 1461 + e.dayOfGroup ≤ 36524 ∧
      (e.group * 1461 + e.dayOfGroup = 36524 → e.century = 3) := by
  have hgroup := e.group_mem
  have hyear := e.year_mem
  have hday := e.day_mem
  have hlast := e.of_last
  rw [dayOfGroup]
  omega

/-- The days of the era are more than as many years of 365 days have by one in four years, less one
in a century; this takes them away again. -/
theorem yearOfEra_eq : (e.dayOfEra - e.dayOfEra / 1460 + e.dayOfEra / 36524 -
    e.dayOfEra / 146096) / 365 = e.yearOfEra := by
  have hcentury := e.century_mem
  have hgroup := e.group_mem
  obtain ⟨hcentury0, hcentury1, hcenturyLast⟩ := e.dayOfCentury_mem
  have hgroupDay := e.dayOfGroup_mem
  have hcenturies : e.dayOfEra / 36524 - e.dayOfEra / 146096 = e.century := by
    rw [dayOfEra, Int.add_assoc]
    omega
  have hgroups : e.dayOfEra / 1460 = e.century * 25 + e.group +
      if 24 * e.century + e.group + e.dayOfGroup < 1460 then 0 else 1 := by
    rw [dayOfEra]
    split <;> omega
  have hyear : (e.dayOfGroup -
      if 24 * e.century + e.group + e.dayOfGroup < 1460 then 0 else 1) / 365 = e.year := by
    have hyear := e.year_mem
    have hday := e.day_mem
    have hlast := e.of_last
    rw [dayOfGroup]
    split <;> omega
  have hsum : e.dayOfEra = e.century * 36524 + e.group * 1461 + e.dayOfGroup := rfl
  rw [yearOfEra]
  omega

theorem day_eq :
    e.dayOfEra - (365 * e.yearOfEra + e.yearOfEra / 4 - e.yearOfEra / 100) = e.day := by
  have hgroup := e.group_mem
  have hyear := e.year_mem
  rw [dayOfEra, yearOfEra, dayOfGroup]
  omega

end EraDay

def IsProper (c : CivilDate) : Prop :=
  1 ≤ c.month ∧ c.month ≤ 12 ∧ 1 ≤ c.day ∧ c.day ≤ daysInMonth c.year c.month

theorem daysInMonth_le (year : Int) (month : Nat) : daysInMonth year month ≤ 31 := by
  rw [daysInMonth]
  split
  · split <;> decide
  · split <;> decide

theorem isLeap_iff {year : Int} :
    isLeap year = true ↔ year % 4 = 0 ∧ (year % 100 ≠ 0 ∨ year % 400 = 0) := by
  simp [isLeap]

def daysBefore (year : Int) : Int := year * 365 + year / 4 - year / 100 + year / 400

/-- The date of a day, counted from 0, in the year that begins in the given one in March. January
and February are the last two months and have the number of the next year. -/
def ofMarch (year : Int) (dayOfYear : Nat) : CivilDate :=
  let month := (5 * dayOfYear + 2) / 153
  let day := dayOfYear - (153 * month + 2) / 5 + 1
  if month < 10 then ⟨year, month + 3, day⟩ else ⟨year + 1, month - 9, day⟩

theorem ofDay_eq_ofMarch {day : Int} {e : EraDay} {dayOfYear : Nat}
    (he : e.dayOfEra = (day + 719468) % 146097) (hday : e.day = dayOfYear) :
    ofDay day = ofMarch (e.yearOfEra + (day + 719468) / 146097 * 400) dayOfYear := by
  simp only [ofDay, ofMarch]
  rw [← he, e.yearOfEra_eq, e.day_eq, hday]
  have hmonth : (5 * (dayOfYear : Int) + 2) / 153 = ((5 * dayOfYear + 2) / 153 : Nat) := by omega
  rw [hmonth]
  generalize hm : (5 * dayOfYear + 2) / 153 = month
  have hdays : ((dayOfYear : Int) - (153 * (month : Int) + 2) / 5 + 1).toNat =
      dayOfYear - (153 * month + 2) / 5 + 1 := by
    omega
  rw [hdays]
  have hmem := e.day_mem
  by_cases hspring : month < 10
  · rw [if_pos hspring, if_pos (show (month : Int) < 10 by omega),
      if_neg (show ¬(month : Int) + 3 ≤ 2 by omega), Int.add_zero]
    rfl
  · rw [if_neg hspring, if_neg (show ¬(month : Int) < 10 by omega),
      if_pos (show (month : Int) - 9 ≤ 2 by omega)]
    congr 1
    omega

/-- Every day is one of a year that begins in March, and the last of 366 is there just if the
February before it belongs to a leap year. -/
theorem exists_ofMarch (day : Int) :
    ∃ (year : Int) (dayOfYear : Nat), dayOfYear ≤ 365 ∧
      (dayOfYear = 365 → isLeap (year + 1) = true) ∧
      daysBefore year + dayOfYear - 719468 = day ∧ ofDay day = ofMarch year dayOfYear := by
  obtain ⟨e, he⟩ := EraDay.exists_dayOfEra_eq (n := (day + 719468) % 146097) (by omega) (by omega)
  obtain ⟨dayOfYear, hdayOfYear⟩ := Int.eq_ofNat_of_zero_le e.day_mem.1
  have hcentury := e.century_mem
  have hgroup := e.group_mem
  have hyear := e.year_mem
  have hlast := e.of_last
  have hday := e.day_eq
  refine ⟨_, dayOfYear, ?_, ?_, ?_, ofDay_eq_ofMarch he hdayOfYear⟩
  · have hmem := e.day_mem
    omega
  · intro h
    rw [isLeap_iff, EraDay.yearOfEra]
    omega
  · have hera : 0 ≤ e.yearOfEra ∧ e.yearOfEra < 400 := by
      rw [EraDay.yearOfEra]
      omega
    rw [daysBefore]
    omega

section

variable {year : Int} {dayOfYear : Nat}

theorem toDay_ofMarch (h : dayOfYear ≤ 365) :
    (ofMarch year dayOfYear).toDay = daysBefore year + dayOfYear - 719468 := by
  simp only [ofMarch]
  generalize hmonth : (5 * dayOfYear + 2) / 153 = month
  split
  · have hnumber : (((month + 3 : Nat) : Int) + 9) % 12 = month := by omega
    simp only [toDay]
    rw [if_neg (by omega), hnumber, daysBefore]
    omega
  · have hnumber : (((month - 9 : Nat) : Int) + 9) % 12 = month := by omega
    simp only [toDay]
    rw [if_pos (by omega), Int.add_sub_cancel, hnumber, daysBefore]
    omega

theorem isProper_ofMarch (h : dayOfYear ≤ 365)
    (hleap : dayOfYear = 365 → isLeap (year + 1) = true) : (ofMarch year dayOfYear).IsProper := by
  simp only [ofMarch]
  generalize hmonth : (5 * dayOfYear + 2) / 153 = month
  split
  · refine ⟨by dsimp only; omega, by dsimp only; omega, Nat.le_add_left .., ?_⟩
    simp only [daysInMonth]
    rw [if_neg (by omega)]
    split <;> omega
  · refine ⟨by dsimp only; omega, by dsimp only; omega, Nat.le_add_left .., ?_⟩
    simp only [daysInMonth]
    obtain rfl | rfl : month = 10 ∨ month = 11 := by omega
    · change dayOfYear - 306 + 1 ≤ 31
      omega
    · change dayOfYear - 337 + 1 ≤ if isLeap (year + 1) = true then 29 else 28
      split
      · omega
      · have hday : dayOfYear ≠ 365 := fun h => absurd (hleap h) ‹_›
        omega

end

theorem toDay_ofDay (day : Int) : (ofDay day).toDay = day := by
  obtain ⟨year, dayOfYear, hmem, -, hsum, heq⟩ := exists_ofMarch day
  rw [heq, toDay_ofMarch hmem, hsum]

theorem isProper_ofDay (day : Int) : (ofDay day).IsProper := by
  obtain ⟨year, dayOfYear, hmem, hleap, -, heq⟩ := exists_ofMarch day
  rw [heq]
  exact isProper_ofMarch hmem hleap

end CivilDate

theorem Date.ofCivil?_ofDay (day : Int) : ofCivil? (CivilDate.ofDay day) = ofDay? day := by
  have hproper : 1 ≤ (CivilDate.ofDay day).month ∧ _ := CivilDate.isProper_ofDay day
  rw [ofCivil?, if_pos hproper, CivilDate.toDay_ofDay]

end TableTransfer
