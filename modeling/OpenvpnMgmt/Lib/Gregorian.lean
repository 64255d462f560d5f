import Mathlib.Algebra.BigOperators.Intervals
import Mathlib.Algebra.Order.BigOperators.Group.Finset
import Mathlib.Tactic.IntervalCases

/-!
The Gregorian calendar. A date is valid by construction; its distance from the first day of an
earlier year is the sum of the years and months in between. March years, which start on the first
of March and end with the leap day, have a closed form, and every day of their cycle of 400 years
has a unique place in it.
-/
namespace Gregorian
open Finset

def IsLeap (y : Nat) : Prop := y % 4 = 0 ∧ (y % 100 ≠ 0 ∨ y % 400 = 0)

instance (y : Nat) : Decidable (IsLeap y) := inferInstanceAs (Decidable (_ ∧ _))

def yearLength (y : Nat) : Nat := if IsLeap y then 366 else 365

def monthLength (y m : Nat) : Nat :=
  if m = 2 then if IsLeap y then 29 else 28
  else if m = 4 ∨ m = 6 ∨ m = 9 ∨ m = 11 then 30
  else 31

structure Date where
  year : Nat
  month : Nat
  day : Nat
  month_pos : 1 ≤ month
  month_le : month ≤ 12
  day_pos : 1 ≤ day
  day_le : day ≤ monthLength year month

def Date.daysFrom (epoch : Nat) (date : Date) : Nat :=
  (∑ y ∈ Ico epoch date.year, yearLength y) +
    (∑ m ∈ Ico 1 date.month, monthLength date.year m) + (date.day - 1)

/-! Years -/

def yearDays (y : Nat) : Nat := 365 * y + y / 4 - y / 100 + y / 400

theorem yearDays_succ (y : Nat) : yearDays (y + 1) = yearDays y + yearLength (y + 1) := by
  have fewer : y / 100 ≤ y / 4 := by omega
  rw [yearDays, yearDays]
  by_cases four : (y + 1) % 4 = 0
  · by_cases hundred : (y + 1) % 100 = 0
    · have steps : (y + 1) / 4 = y / 4 + 1 ∧ (y + 1) / 100 = y / 100 + 1 := by omega
      by_cases all : (y + 1) % 400 = 0
      · have last : (y + 1) / 400 = y / 400 + 1 := by omega
        have leap : yearLength (y + 1) = 366 := if_pos ⟨four, Or.inr all⟩
        omega
      · have last : (y + 1) / 400 = y / 400 := by omega
        have common : yearLength (y + 1) = 365 := if_neg fun leap => leap.2.elim (· hundred) all
        omega
    · have steps : (y + 1) / 4 = y / 4 + 1 ∧ (y + 1) / 100 = y / 100 := by omega
      have last : (y + 1) / 400 = y / 400 := by omega
      have leap : yearLength (y + 1) = 366 := if_pos ⟨four, Or.inl hundred⟩
      omega
  · have steps : (y + 1) / 4 = y / 4 ∧ (y + 1) / 100 = y / 100 := by omega
    have last : (y + 1) / 400 = y / 400 := by omega
    have common : yearLength (y + 1) = 365 := if_neg fun leap => four leap.1
    omega

theorem sum_yearLength {a b : Nat} (ordered : a ≤ b) :
    yearDays a + ∑ y ∈ Ico (a + 1) (b + 1), yearLength y = yearDays b := by
  induction b, ordered using Nat.le_induction with
  | base => simp
  | succ b ordered ih => rw [sum_Ico_succ_top (by omega), ← Nat.add_assoc, ih, yearDays_succ]

theorem yearDays_mono {a b : Nat} (ordered : a ≤ b) : yearDays a ≤ yearDays b := by
  have years := sum_yearLength ordered
  omega

/-! Months -/

/-- From March on, the months before a month are those of a March year, which do not depend on
    the year, and two more. -/
theorem sum_monthLength {y m : Nat} (first : 3 ≤ m) (last : m ≤ 12) :
    ∑ k ∈ Ico 1 m, monthLength y k = 31 + monthLength y 2 + (153 * (m - 3) + 2) / 5 := by
  induction m, first using Nat.le_induction with
  | base => simp [sum_Ico_succ_top, monthLength]
  | succ m first ih =>
    have below : m ≤ 11 := by omega
    rw [sum_Ico_succ_top (by omega), ih (by omega)]
    interval_cases m <;> simp [monthLength]

theorem february (y : Nat) : monthLength y 2 + 337 = yearLength y := by
  rw [monthLength, if_pos rfl, yearLength]
  split <;> rfl

/-! March years -/

/-- A day of the cycle of 400 years that starts on a first of March: the century, the four years,
    the year and the day. Day 365 is the leap day. -/
structure Place (doe b g h k : Nat) : Prop where
  whole : doe = 36524 * b + 1461 * g + 365 * h + k
  century : b < 4
  fourYears : g < 25
  year : h < 4
  day : k ≤ 365
  leapDay : k = 365 → h = 3 ∧ (g < 24 ∨ b = 3)

theorem exists_place {doe : Nat} (cycle : doe < 146097) : ∃ b g h k, Place doe b g h k := by
  by_cases last : doe = 146096
  · exact ⟨3, 24, 3, 365, by omega, by omega, by omega, by omega, by omega, by omega⟩
  · obtain ⟨b, r, century, whole, short⟩ : ∃ b r, b < 4 ∧ doe = 36524 * b + r ∧ r < 36524 :=
      ⟨doe / 36524, doe % 36524, by omega, by omega, by omega⟩
    obtain ⟨g, t, fourYears, rest, few⟩ : ∃ g t, g < 25 ∧ r = 1461 * g + t ∧ t < 1461 :=
      ⟨r / 1461, r % 1461, by omega, by omega, by omega⟩
    by_cases leapDay : t = 1460
    · exact ⟨b, g, 3, 365, by omega, century, fourYears, by omega, by omega, by omega⟩
    · exact ⟨b, g, t / 365, t % 365, by omega, century, fourYears, by omega, by omega, by omega⟩

theorem Place.isLeap {doe b g h k : Nat} (place : Place doe b g h k) (last : k = 365) (era : Nat) :
    IsLeap (100 * b + 4 * g + h + 400 * era + 1) := by
  obtain ⟨rfl, tail⟩ := place.leapDay last
  have century := place.century
  have fourYears := place.fourYears
  unfold IsLeap
  omega

theorem Place.yearDays {doe b g h k : Nat} (place : Place doe b g h k) (era : Nat) :
    yearDays (100 * b + 4 * g + h + 400 * era) + k = 146097 * era + doe := by
  have century := place.century
  have fourYears := place.fourYears
  have year := place.year
  rw [Gregorian.yearDays, place.whole]
  omega

def marchMonth (k : Nat) : Nat := (5 * k + 2) / 153

def marchDays (m : Nat) : Nat := (153 * m + 2) / 5

theorem marchMonth_bounds {k : Nat} (short : k ≤ 365) :
    marchMonth k ≤ 11 ∧ marchDays (marchMonth k) ≤ k ∧ k < marchDays (marchMonth k + 1) := by
  simp only [marchMonth, marchDays]
  omega

theorem marchDays_succ {y m : Nat} (small : m < 10) :
    marchDays (m + 1) = marchDays m + monthLength y (m + 3) := by
  interval_cases m <;> simp [marchDays, monthLength]

theorem exists_date {y k : Nat} (short : k ≤ 365) (leapDay : k = 365 → IsLeap (y + 1)) :
    ∃ date : Date, date.year = (if marchMonth k < 10 then y else y + 1) ∧
      date.month = (if marchMonth k < 10 then marchMonth k + 3 else marchMonth k - 9) ∧
      date.day = k - marchDays (marchMonth k) + 1 ∧
      ∀ epoch, epoch < date.year →
        yearDays epoch + 306 + date.daysFrom (epoch + 1) = yearDays y + k := by
  obtain ⟨last, begun, ends⟩ := marchMonth_bounds short
  by_cases sameYear : marchMonth k < 10
  · have length := marchDays_succ (y := y) sameYear
    refine ⟨⟨y, marchMonth k + 3, k - marchDays (marchMonth k) + 1, by omega, by omega, by omega,
      by omega⟩, by simp [sameYear], by simp [sameYear], rfl, ?_⟩
    intro epoch before
    obtain ⟨before', rfl⟩ : ∃ n, y = n + 1 := ⟨y - 1, by simp only at before; omega⟩
    have years := sum_yearLength (show epoch ≤ before' by simp only at before; omega)
    have months := sum_monthLength (y := before' + 1) (m := marchMonth k + 3) (by omega) (by omega)
    have whole := yearDays_succ before'
    have short := february (before' + 1)
    have offset : (153 * (marchMonth k + 3 - 3) + 2) / 5 = marchDays (marchMonth k) := rfl
    simp only [Date.daysFrom]
    omega
  · have cases : marchMonth k = 10 ∨ marchMonth k = 11 := by omega
    have length : k - marchDays (marchMonth k) + 1 ≤ monthLength (y + 1) (marchMonth k - 9) := by
      rcases cases with january | february
      · have whole : monthLength (y + 1) (10 - 9) = 31 := by simp [monthLength]
        rw [january] at begun ends ⊢
        simp only [marchDays] at begun ends ⊢
        omega
      · rw [february] at begun ends ⊢
        by_cases last : k = 365
        · have whole : monthLength (y + 1) (11 - 9) = 29 := by simp [monthLength, leapDay last]
          simp only [marchDays]
          omega
        · have whole : 28 ≤ monthLength (y + 1) (11 - 9) := by
            simp only [monthLength, Nat.reduceSub, if_true]
            split <;> omega
          simp only [marchDays]
          omega
    refine ⟨⟨y + 1, marchMonth k - 9, k - marchDays (marchMonth k) + 1, by omega, by omega,
      by omega, length⟩, by simp [sameYear], by simp [sameYear], rfl, ?_⟩
    intro epoch before
    have years := sum_yearLength (show epoch ≤ y by simp only at before; omega)
    have months : ∑ m ∈ Ico 1 (marchMonth k - 9), monthLength (y + 1) m + 306 =
        marchDays (marchMonth k) := by
      rcases cases with january | february
      · simp [january, marchDays]
      · simp [february, marchDays, monthLength]
    simp only [Date.daysFrom]
    omega

/-! The order of dates -/

theorem offset_lt {f : Nat → Nat} {a i j x : Nat} (first : a ≤ i) (earlier : i < j)
    (inside : x < f i) (y : Nat) : ∑ k ∈ Ico a i, f k + x < ∑ k ∈ Ico a j, f k + y := by
  have part := sum_Ico_succ_top first f
  have whole : ∑ k ∈ Ico a (i + 1), f k ≤ ∑ k ∈ Ico a j, f k :=
    sum_le_sum_of_subset (Ico_subset_Ico_right earlier)
  omega

theorem sum_months (y : Nat) : ∑ m ∈ Ico 1 13, monthLength y m = yearLength y := by
  have most := sum_monthLength (y := y) (m := 12) (by omega) (by omega)
  have rest := february y
  have last : monthLength y 12 = 31 := by simp [monthLength]
  rw [sum_Ico_succ_top (by omega), most, last]
  omega

def Date.dayOfYear (date : Date) : Nat :=
  ∑ m ∈ Ico 1 date.month, monthLength date.year m + (date.day - 1)

theorem Date.daysFrom_eq (epoch : Nat) (date : Date) :
    date.daysFrom epoch = ∑ y ∈ Ico epoch date.year, yearLength y + date.dayOfYear := by
  rw [Date.daysFrom, Date.dayOfYear, Nat.add_assoc]

theorem Date.dayOfYear_lt (date : Date) : date.dayOfYear < yearLength date.year := by
  have first := date.day_pos
  have last := date.day_le
  have whole := sum_months date.year
  have inside := offset_lt (f := monthLength date.year) (x := date.day - 1) date.month_pos
    (show date.month < 13 from Nat.lt_succ_of_le date.month_le) (by omega) 0
  rw [Date.dayOfYear]
  omega

theorem Date.daysFrom_lt {a b : Date} {epoch : Nat} (since : epoch ≤ a.year)
    (earlier : a.year < b.year ∨ a.year = b.year ∧ (a.month < b.month ∨
      a.month = b.month ∧ a.day < b.day)) : a.daysFrom epoch < b.daysFrom epoch := by
  rw [Date.daysFrom_eq, Date.daysFrom_eq]
  rcases earlier with year | ⟨sameYear, month | ⟨sameMonth, day⟩⟩
  · exact offset_lt since year a.dayOfYear_lt _
  · have first := a.day_pos
    have last := a.day_le
    have inside := offset_lt (f := monthLength a.year) (x := a.day - 1) a.month_pos month (by omega)
      (b.day - 1)
    rw [sameYear, Date.dayOfYear, Date.dayOfYear, ← sameYear]
    omega
  · have first := a.day_pos
    rw [sameYear, Date.dayOfYear, Date.dayOfYear, sameMonth, sameYear]
    omega

theorem Date.daysFrom_ge {date : Date} {epoch y : Nat} (since : epoch ≤ y) (late : y < date.year) :
    yearDays y ≤ yearDays epoch + date.daysFrom (epoch + 1) := by
  have years := sum_yearLength since
  have whole : ∑ k ∈ Ico (epoch + 1) (y + 1), yearLength k ≤
      ∑ k ∈ Ico (epoch + 1) date.year, yearLength k :=
    sum_le_sum_of_subset (Ico_subset_Ico_right late)
  rw [Date.daysFrom_eq]
  omega

end Gregorian
