import BridgeLedger.Timestamp
import Mathlib.Tactic.IntervalCases

/-!
# The calendar

Consecutive days have consecutive dates: the months have their lengths, and every fourth year has a leap day, but for
three centuries in four (`CivilDate.ofDays_succ`). A date comes before the next one, so the dates of all days stand in
the order of the days (`CivilDate.ofDays_before`).

The date of a day is found by counting from the first of March of year 0. A `MarchDate` is a day in that count, where
the month that varies in length comes last.
-/

namespace BridgeLedger

namespace CivilDate

/-! ## One day after the other -/

def isLeapYear (year : Int) : Bool := year % 4 = 0 && (year % 100 ≠ 0 || year % 400 = 0)

def monthLength (year : Int) (month : Nat) : Nat :=
  if month = 2 then (if isLeapYear year then 29 else 28)
  else if month = 4 ∨ month = 6 ∨ month = 9 ∨ month = 11 then 30
  else 31

def nextMonth (date : CivilDate) : CivilDate :=
  if date.month < 12 then { date with month := date.month + 1, day := 1 }
  else { year := date.year + 1, month := 1, day := 1 }

def next (date : CivilDate) : CivilDate :=
  if date.day < monthLength date.year date.month then { date with day := date.day + 1 } else date.nextMonth

def Before (date later : CivilDate) : Prop :=
  date.year < later.year ∨
    date.year = later.year ∧ (date.month < later.month ∨ date.month = later.month ∧ date.day < later.day)

theorem Before.trans {first second third : CivilDate} (h : first.Before second) (h' : second.Before third) :
    first.Before third := by
  unfold Before at h h' ⊢
  omega

theorem before_next (date : CivilDate) : date.Before date.next := by
  unfold next nextMonth Before
  split
  · exact .inr ⟨rfl, .inr ⟨rfl, Nat.lt_succ_self _⟩⟩
  · split
    · exact .inr ⟨rfl, .inl (Nat.lt_succ_self _)⟩
    · exact .inl (Int.lt_succ _)

end CivilDate

/-! ## Counting from March -/

/-- How many days of a cycle lie before its year of that number. -/
def daysBeforeYear (year : Nat) : Nat := 365 * year + year / 4 - year / 100

def daysBeforeMonth (month : Nat) : Nat := (153 * month + 2) / 5

/-- The year of a cycle has a day of that number, which for the last of 366 takes a leap year. -/
def HasDay (year day : Nat) : Prop :=
  day < 365 ∨ day = 365 ∧ (year + 1) % 4 = 0 ∧ ((year + 1) % 100 ≠ 0 ∨ year = 399)

/-! ### Years -/

section
variable {century group year : Nat} (hgroup : group < 25) (hyear : year < 4)
include hgroup hyear

theorem daysBeforeYear_of_parts :
    daysBeforeYear (100 * century + 4 * group + year) = 36524 * century + 1461 * group + 365 * year := by
  unfold daysBeforeYear
  omega

theorem hasDay_of_parts (hcentury : century < 4) (day : Nat) :
    HasDay (100 * century + 4 * group + year) day ↔
      day < 365 ∨ day = 365 ∧ year = 3 ∧ (group < 24 ∨ century = 3) := by
  unfold HasDay
  omega

end

theorem exists_yearParts {year : Nat} (h : year < 400) :
    ∃ century group last, century < 4 ∧ group < 25 ∧ last < 4 ∧ year = 100 * century + 4 * group + last :=
  ⟨year / 100, year % 100 / 4, year % 4, by omega, by omega, by omega, by omega⟩

theorem yearOfCycle_eq {year day dayOfCycle : Nat} (hyear : year < 400) (hday : HasDay year day)
    (h : dayOfCycle = daysBeforeYear year + day) :
    dayOfCycle < 146097 ∧
      (dayOfCycle - dayOfCycle / 1460 + dayOfCycle / 36524 - dayOfCycle / 146096) / 365 = year := by
  obtain ⟨century, group, last, hcentury, hgroup, hlast, rfl⟩ := exists_yearParts hyear
  rw [hasDay_of_parts hgroup hlast hcentury] at hday
  rw [daysBeforeYear_of_parts hgroup hlast] at h
  have hgroups : dayOfCycle / 1460 = 25 * century + group + (24 * century + group + 365 * last + day) / 1460 := by
    omega
  refine ⟨by omega, ?_⟩
  by_cases hend : dayOfCycle = 146096
  · omega
  · have hother : dayOfCycle / 146096 = 0 := by omega
    have hcenturies : dayOfCycle / 36524 = century := by omega
    omega

theorem exists_year {dayOfCycle : Nat} (h : dayOfCycle < 146097) :
    ∃ year day, year < 400 ∧ HasDay year day ∧ dayOfCycle = daysBeforeYear year + day := by
  -- the last day of a cycle is in its fourth century, and the last day of four years in the fourth of them
  obtain ⟨century, hcentury⟩ : ∃ century, century = min (dayOfCycle / 36524) 3 := ⟨_, rfl⟩
  obtain ⟨group, hgroup⟩ : ∃ group, group = (dayOfCycle - 36524 * century) / 1461 := ⟨_, rfl⟩
  obtain ⟨year, hyear⟩ : ∃ year, year = min ((dayOfCycle - 36524 * century - 1461 * group) / 365) 3 := ⟨_, rfl⟩
  have hcentury_lt : century < 4 := by omega
  have hgroup_lt : group < 25 := by omega
  have hyear_lt : year < 4 := by omega
  refine ⟨100 * century + 4 * group + year, dayOfCycle - 36524 * century - 1461 * group - 365 * year, by omega, ?_, ?_⟩
  · rw [hasDay_of_parts hgroup_lt hyear_lt hcentury_lt]
    omega
  · rw [daysBeforeYear_of_parts hgroup_lt hyear_lt]
    omega

/-! ### Months -/

theorem month_eq {month day : Nat} (h : daysBeforeMonth month + day < daysBeforeMonth (month + 1)) :
    (5 * (daysBeforeMonth month + day) + 2) / 153 = month := by
  unfold daysBeforeMonth at h ⊢
  omega

theorem exists_month (dayOfYear : Nat) :
    ∃ month day, daysBeforeMonth month + day = dayOfYear ∧ dayOfYear < daysBeforeMonth (month + 1) := by
  refine ⟨(5 * dayOfYear + 2) / 153, dayOfYear - daysBeforeMonth ((5 * dayOfYear + 2) / 153), ?_, ?_⟩ <;>
    unfold daysBeforeMonth <;> omega

/-! ### Dates -/

/-- A day in a cycle of 400 years, each from March to February. Years, months and days count from 0. -/
structure MarchDate where
  cycle : Int
  year : Nat
  month : Nat
  day : Nat
  year_lt : year < 400
  day_lt : daysBeforeMonth month + day < daysBeforeMonth (month + 1)
  hasDay : HasDay year (daysBeforeMonth month + day)

namespace MarchDate

def days (march : MarchDate) : Int :=
  146097 * march.cycle + (daysBeforeYear march.year + (daysBeforeMonth march.month + march.day) : Nat) - 730425

def date (march : MarchDate) : CivilDate where
  year := 400 * march.cycle + march.year + if march.month < 10 then 0 else 1
  month := if march.month < 10 then march.month + 3 else march.month - 9
  day := march.day + 1

theorem month_lt (march : MarchDate) : march.month < 12 := by
  have := march.hasDay
  simp only [HasDay, daysBeforeMonth] at this
  omega

theorem ofDays_days (march : MarchDate) : CivilDate.ofDays march.days = march.date := by
  obtain ⟨hlong, hyear⟩ := yearOfCycle_eq march.year_lt march.hasDay rfl
  have hcycle : (march.days + 730425) / 146097 = march.cycle := by
    unfold days
    omega
  have hday : ((march.days + 730425) % 146097).toNat =
      daysBeforeYear march.year + (daysBeforeMonth march.month + march.day) := by
    unfold days
    omega
  have hdayOfYear : daysBeforeYear march.year + (daysBeforeMonth march.month + march.day) -
      (365 * march.year + march.year / 4 - march.year / 100) = daysBeforeMonth march.month + march.day :=
    Nat.add_sub_cancel_left ..
  have hmonth := march.month_lt
  simp only [CivilDate.ofDays, hcycle, hday, hyear, hdayOfYear, month_eq march.day_lt, date, CivilDate.mk.injEq,
    true_and]
  refine ⟨?_, ?_⟩
  · split <;> split <;> omega
  · unfold daysBeforeMonth
    omega

theorem exists_days (days : Int) : ∃ march : MarchDate, march.days = days := by
  obtain ⟨year, dayOfYear, hyear, hhas, hday⟩ :=
    exists_year (show ((days + 730425) % 146097).toNat < 146097 by omega)
  obtain ⟨month, day, rfl, hmonth⟩ := exists_month dayOfYear
  refine ⟨⟨(days + 730425) / 146097, year, month, day, hyear, hmonth, hhas⟩, ?_⟩
  simp only [MarchDate.days, ← hday]
  omega

/-! ### The next day -/

theorem lt_monthLength_iff (cycle : Int) {year month : Nat} (hyear : year < 400) (hmonth : month < 12) (day : Nat) :
    day < CivilDate.monthLength (400 * cycle + year + if month < 10 then 0 else 1)
        (if month < 10 then month + 3 else month - 9) ↔
      daysBeforeMonth month + day < daysBeforeMonth (month + 1) ∧ HasDay year (daysBeforeMonth month + day) := by
  by_cases hlast : month = 11
  · subst hlast
    have hleap : CivilDate.isLeapYear (400 * cycle + year + 1) = true ↔
        (year + 1) % 4 = 0 ∧ ((year + 1) % 100 ≠ 0 ∨ year = 399) := by
      simp only [CivilDate.isLeapYear, Bool.and_eq_true, Bool.or_eq_true, decide_eq_true_eq]
      omega
    simp only [CivilDate.monthLength, HasDay, daysBeforeMonth]
    simp [hleap]
    split <;> omega
  · have hlength : ∀ year, CivilDate.monthLength year (if month < 10 then month + 3 else month - 9) =
        daysBeforeMonth (month + 1) - daysBeforeMonth month := by
      intro year
      interval_cases month <;> first | rfl | omega
    rw [hlength]
    unfold HasDay daysBeforeMonth
    omega

theorem daysBeforeYear_succ {year day : Nat} (hyear : year < 399) (hday : HasDay year day)
    (hlast : ¬ HasDay year (day + 1)) : daysBeforeYear (year + 1) = daysBeforeYear year + day + 1 := by
  unfold HasDay at hday hlast
  unfold daysBeforeYear
  omega

def newYear (cycle : Int) (year : Nat) (h : year < 400) : MarchDate :=
  ⟨cycle, year, 0, 0, h, by decide, .inl (by decide)⟩

theorem exists_newYear (march : MarchDate) (hmonth : march.month = 11)
    (hlast : ¬ HasDay march.year (daysBeforeMonth march.month + march.day + 1)) :
    ∃ later : MarchDate, later.days = march.days + 1 ∧ later.date = march.date.nextMonth := by
  by_cases hyear : march.year = 399
  · refine ⟨newYear (march.cycle + 1) 0 (by decide), ?_, ?_⟩
    · have hhas := march.hasDay
      simp only [HasDay, hyear] at hhas hlast
      simp [days, newYear, hyear, daysBeforeYear, daysBeforeMonth] at hhas hlast ⊢
      omega
    · simp [date, newYear, hyear, hmonth, CivilDate.nextMonth]
      omega
  · have hlt : march.year < 399 := by
      have := march.year_lt
      omega
    refine ⟨newYear march.cycle (march.year + 1) (by omega), ?_, ?_⟩
    · have hdays := daysBeforeYear_succ hlt march.hasDay hlast
      simp [days, newYear, hdays, daysBeforeMonth]
      omega
    · simp [date, newYear, hmonth, CivilDate.nextMonth]
      omega

theorem date_nextMonth (march : MarchDate) (hmonth : march.month < 11) :
    march.date.nextMonth = ⟨400 * march.cycle + march.year + if march.month + 1 < 10 then 0 else 1,
      if march.month + 1 < 10 then march.month + 1 + 3 else march.month + 1 - 9, 1⟩ := by
  by_cases hdecember : march.month = 9
  · simp [date, hdecember, CivilDate.nextMonth]
  · have hcivil : march.date.month < 12 := by
      simp only [date]
      split <;> omega
    rw [CivilDate.nextMonth, if_pos hcivil]
    simp only [date, CivilDate.mk.injEq]
    refine ⟨?_, ?_, trivial⟩ <;> split <;> split <;> omega

theorem exists_nextMonth (march : MarchDate)
    (hend : ¬ (daysBeforeMonth march.month + march.day + 1 < daysBeforeMonth (march.month + 1) ∧
      HasDay march.year (daysBeforeMonth march.month + march.day + 1))) :
    ∃ later : MarchDate, later.days = march.days + 1 ∧ later.date = march.date.nextMonth := by
  by_cases hlast : march.month = 11
  · refine march.exists_newYear hlast fun hhas => hend ⟨?_, hhas⟩
    simp only [HasDay, daysBeforeMonth, hlast] at hhas ⊢
    omega
  · have hmonth : march.month < 11 := by
      have := march.month_lt
      omega
    have hday : daysBeforeMonth (march.month + 1) = daysBeforeMonth march.month + march.day + 1 := by
      have := march.day_lt
      unfold HasDay daysBeforeMonth at hend
      unfold daysBeforeMonth at this ⊢
      omega
    refine ⟨{ march with month := march.month + 1, day := 0, day_lt := ?_, hasDay := .inl ?_ }, ?_, ?_⟩
    · unfold daysBeforeMonth
      omega
    · unfold daysBeforeMonth
      omega
    · simp only [days, hday]
      omega
    · rw [march.date_nextMonth hmonth]
      rfl

theorem exists_next (march : MarchDate) :
    ∃ later : MarchDate, later.days = march.days + 1 ∧ later.date = march.date.next := by
  have hlength : march.date.day < CivilDate.monthLength march.date.year march.date.month ↔ _ :=
    lt_monthLength_iff march.cycle march.year_lt march.month_lt (march.day + 1)
  unfold CivilDate.next
  by_cases hmore : march.date.day < CivilDate.monthLength march.date.year march.date.month
  · obtain ⟨hday, hhas⟩ := hlength.mp hmore
    refine ⟨{ march with day := march.day + 1, day_lt := hday, hasDay := hhas }, ?_, ?_⟩
    · simp only [days]
      omega
    · rw [if_pos hmore]
      rfl
  · rw [if_neg hmore]
    exact march.exists_nextMonth (mt hlength.mpr hmore)

end MarchDate

/-! ## All days -/

namespace CivilDate

theorem ofDays_succ (days : Int) : ofDays (days + 1) = (ofDays days).next := by
  obtain ⟨march, rfl⟩ := MarchDate.exists_days days
  obtain ⟨later, hdays, hdate⟩ := march.exists_next
  rw [← hdays, later.ofDays_days, march.ofDays_days, hdate]

example : ofDays 0 = ⟨2000, 1, 1⟩ := by decide

theorem ofDays_before {days later : Int} (h : days < later) : (ofDays days).Before (ofDays later) := by
  induction later, h using Int.leInduction with
  | base =>
    rw [ofDays_succ]
    exact before_next _
  | succ later _ ih =>
    rw [ofDays_succ]
    exact ih.trans (before_next _)

theorem ofDays_month_le (days : Int) : (ofDays days).month ≤ 12 := by
  obtain ⟨march, rfl⟩ := MarchDate.exists_days days
  have := march.month_lt
  rw [march.ofDays_days]
  simp only [MarchDate.date]
  split <;> omega

theorem ofDays_day_le (days : Int) : (ofDays days).day ≤ 31 := by
  obtain ⟨march, rfl⟩ := MarchDate.exists_days days
  have := march.day_lt
  rw [march.ofDays_days]
  simp only [MarchDate.date, daysBeforeMonth] at this ⊢
  omega

end CivilDate

end BridgeLedger
