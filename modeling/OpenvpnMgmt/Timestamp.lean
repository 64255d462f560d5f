import OpenvpnMgmt.Values
import OpenvpnMgmt.Lib.Gregorian

/-!
Unix timestamps as dates. Every operation of `u64` that may leave its range is one that may fail
(`none`); none of them does, and the date is the one the timestamp lies on.
-/
namespace MgmtTimestamp
open TextOps MgmtValues Gregorian

/-! Checked operations -/

def add (a b : Nat) : Option Nat := if a + b < 2 ^ 64 then some (a + b) else none
def sub (a b : Nat) : Option Nat := if b ≤ a then some (a - b) else none
def mul (a b : Nat) : Option Nat := if a * b < 2 ^ 64 then some (a * b) else none

theorem add_fits {a b : Nat} (fits : a + b < 2 ^ 64) : add a b = some (a + b) := if_pos fits
theorem sub_fits {a b : Nat} (fits : b ≤ a) : sub a b = some (a - b) := if_pos fits
theorem mul_fits {a b : Nat} (fits : a * b < 2 ^ 64) : mul a b = some (a * b) := if_pos fits

theorem step_ok {α β : Type} {x : Option α} {a : α} {f : α → Option β} {result : β}
    (first : x = some a) (rest : f a = some result) : (x >>= f) = some result := by
  rw [first]
  exact rest

/-! Dates -/

def daysToYmd (days : Nat) : Option (Nat × Nat × Nat) := do
  let days ← add days 719468
  let era := days / 146097
  let doe ← sub days (← mul era 146097)
  let yoe := (← sub (← add (← sub doe (doe / 1460)) (doe / 36524)) (doe / 146096)) / 365
  let year ← add yoe (← mul era 400)
  let doy ← sub doe (← sub (← add (← mul 365 yoe) (yoe / 4)) (yoe / 100))
  let monthOffset := (← add (← mul 5 doy) 2) / 153
  let day ← add (← sub doy ((← add (← mul 153 monthOffset) 2) / 5)) 1
  let month ← (if monthOffset < 10 then add monthOffset 3 else sub monthOffset 9)
  let year ← (if month ≤ 2 then add year 1 else some year)
  return (year, month, day)

def decompose (ts : U64) : Option (Nat × Nat × Nat × Nat × Nat × Nat) := do
  let secs := ts.toNat % 60
  let minsTotal := ts.toNat / 60
  let mins := minsTotal % 60
  let hoursTotal := minsTotal / 60
  let hours := hoursTotal % 24
  let daysTotal := hoursTotal / 24
  let (year, month, day) ← daysToYmd daysTotal
  return (year, month, day, hours, mins, secs)

/- `{n:0width}` -/
def padded (width n : Nat) : Text := (Nat.toDigits 10 n).leftpad width '0'

/- The empty text stands for a timestamp that is not set. -/
def formatWith (separator : Char) (zone : Text) (ts : U64) : Option Text :=
  if ts = 0 then some [] else do
    let (year, month, day, hours, mins, secs) ← decompose ts
    return padded 4 year ++ '-' :: (padded 2 month ++ '-' :: (padded 2 day ++ separator ::
      (padded 2 hours ++ ':' :: (padded 2 mins ++ ':' :: (padded 2 secs ++ zone)))))

def formatUtc (ts : U64) : Option Text := formatWith 'T' ['Z'] ts

def formatTimestamp (ts : U64) : Option Text := formatWith ' ' [] ts

/-! The year of a cycle -/

/-- The formula for the year of a day of the cycle, and none of its differences underflows. -/
theorem yearOfCycle {doe b g h k : Nat} (place : Place doe b g h k) :
    (doe - doe / 1460 + doe / 36524 - doe / 146096) / 365 = 100 * b + 4 * g + h := by
  obtain ⟨whole, century, fourYears, year, day, leapDay⟩ := place
  by_cases last : doe = 146096
  · subst last
    omega
  · have before : doe / 146096 = 0 := by omega
    have centuries : doe / 36524 = b := by omega
    -- The days are counted by 1460, the leap days come on top.
    have fours : doe / 1460 = 25 * b + g ∨
        doe / 1460 = 25 * b + g + 1 ∧ 1460 ≤ 24 * b + g + 365 * h + k := by omega
    rw [before, centuries]
    rcases fours with same | ⟨more, late⟩
    · have short : k < 365 := by omega
      rw [same]
      omega
    · have positive : 1 ≤ k := by omega
      rw [more]
      omega

theorem dayOfYear {doe b g h k : Nat} (place : Place doe b g h k) :
    365 * (100 * b + 4 * g + h) + (100 * b + 4 * g + h) / 4 - (100 * b + 4 * g + h) / 100 + k =
      doe := by
  obtain ⟨whole, century, fourYears, year, -, -⟩ := place
  omega

/-! The date -/

theorem monthOfYear {m year : Nat} (last : m ≤ 11) (fits : year + 1 < 2 ^ 64) (day : Nat) :
    (do
      let month ← (if m < 10 then add m 3 else sub m 9)
      let year ← (if month ≤ 2 then add year 1 else some year)
      return (year, month, day)) =
      some (if m < 10 then year else year + 1, if m < 10 then m + 3 else m - 9, day) := by
  by_cases early : m < 10
  · simp only [early, if_true]
    refine step_ok (add_fits (by omega)) ?_
    rw [if_neg (by omega)]
    rfl
  · simp only [early, if_false]
    refine step_ok (sub_fits (by omega)) ?_
    rw [if_pos (by omega)]
    refine step_ok (add_fits fits) ?_
    rfl

/-- No operation leaves the range of `u64` once the shift to the era fits. -/
theorem daysToYmd_eq {days b g h k : Nat} (fits : days + 719468 < 2 ^ 64)
    (place : Place ((days + 719468) % 146097) b g h k) :
    daysToYmd days =
      let year := 100 * b + 4 * g + h + 400 * ((days + 719468) / 146097)
      some (if marchMonth k < 10 then year else year + 1,
        if marchMonth k < 10 then marchMonth k + 3 else marchMonth k - 9,
        k - marchDays (marchMonth k) + 1) := by
  have yoe := yearOfCycle place
  have doy := dayOfYear place
  obtain ⟨last, begun, -⟩ := marchMonth_bounds place.day
  obtain ⟨-, century, fourYears, year, day, -⟩ := place
  unfold daysToYmd
  refine step_ok (add_fits fits) ?_
  generalize days + 719468 = total at *
  have cycle : total - total / 146097 * 146097 = total % 146097 := by omega
  refine step_ok (mul_fits (by omega)) ?_
  refine step_ok (sub_fits (by omega)) ?_
  rw [cycle]
  refine step_ok (sub_fits (by omega)) ?_
  refine step_ok (add_fits (by omega)) ?_
  refine step_ok (sub_fits (by omega)) ?_
  rw [yoe]
  generalize total % 146097 = doe at *
  generalize 100 * b + 4 * g + h = q at *
  have before : doe - (365 * q + q / 4 - q / 100) = k := by omega
  refine step_ok (mul_fits (by omega)) ?_
  refine step_ok (add_fits (by omega)) ?_
  refine step_ok (mul_fits (by omega)) ?_
  refine step_ok (add_fits (by omega)) ?_
  refine step_ok (sub_fits (by omega)) ?_
  refine step_ok (sub_fits (by omega)) ?_
  rw [before]
  refine step_ok (mul_fits (by omega)) ?_
  refine step_ok (add_fits (by omega)) ?_
  refine step_ok (mul_fits (by omega)) ?_
  refine step_ok (add_fits (by omega)) ?_
  refine step_ok (sub_fits begun) ?_
  refine step_ok (add_fits (by omega)) ?_
  rw [Nat.mul_comm (total / 146097) 400]
  exact monthOfYear last (by omega) _

theorem daysToYmd_date {days : Nat} (fits : days + 719468 < 2 ^ 64) :
    ∃ date : Date, 1970 ≤ date.year ∧
      daysToYmd days = some (date.year, date.month, date.day) ∧ date.daysFrom 1970 = days := by
  obtain ⟨b, g, h, k, place⟩ := exists_place (Nat.mod_lt (days + 719468) (by decide : 0 < 146097))
  have value := daysToYmd_eq fits place
  have whole := place.yearDays ((days + 719468) / 146097)
  obtain ⟨date, year, month, day, distance⟩ :=
    exists_date place.day fun last => place.isLeap last ((days + 719468) / 146097)
  rw [Nat.div_add_mod] at whole
  -- A day before 1970 would lie below the shift.
  have late : 1970 ≤ date.year := by
    obtain ⟨-, -, ends⟩ := marchMonth_bounds place.day
    by_contra early
    by_cases sameYear : marchMonth k < 10
    · rw [if_pos sameYear] at year
      have years := yearDays_mono (show date.year ≤ 1969 by omega)
      have few : yearDays 1969 = 719162 := rfl
      simp only [marchDays] at ends
      rw [← year] at whole
      omega
    · rw [if_neg sameYear] at year
      have years := yearDays_mono (show date.year - 1 ≤ 1968 by omega)
      have few : yearDays 1968 = 718797 := rfl
      have day := place.day
      rw [show date.year - 1 = _ from Nat.sub_eq_of_eq_add year] at years
      omega
  have same : yearDays 1969 + 306 + date.daysFrom 1970 = _ := distance 1969 (by omega)
  have start : yearDays 1969 = 719162 := rfl
  refine ⟨date, late, ?_, by omega⟩
  rw [value, year, month, day]

theorem decompose_eq {ts : U64} {date : Date}
    (value : daysToYmd (ts.toNat / 60 / 60 / 24) = some (date.year, date.month, date.day)) :
    decompose ts = some (date.year, date.month, date.day, ts.toNat / 60 / 60 % 24,
      ts.toNat / 60 % 60, ts.toNat % 60) := by
  rw [decompose, value]
  rfl

theorem timestamp_days (ts : U64) : ts.toNat / 60 / 60 / 24 + 719468 < 2 ^ 64 := by
  have bound := ts.isLt
  omega

/-- A timestamp is a valid date and a time of day, and counts the seconds up to them. -/
theorem decompose_civil (ts : U64) :
    ∃ (date : Date) (hour minute second : Nat),
      decompose ts = some (date.year, date.month, date.day, hour, minute, second) ∧
      1970 ≤ date.year ∧ hour < 24 ∧ minute < 60 ∧ second < 60 ∧
      date.daysFrom 1970 * 86400 + 3600 * hour + 60 * minute + second = ts.toNat := by
  obtain ⟨date, late, value, days⟩ := daysToYmd_date (timestamp_days ts)
  refine ⟨date, _, _, _, decompose_eq value, late, ?_, ?_, ?_, ?_⟩
  · omega
  · omega
  · omega
  · omega

theorem formatWith_ok (separator : Char) (zone : Text) (ts : U64) :
    ∃ text, formatWith separator zone ts = some text := by
  obtain ⟨date, -, value, -⟩ := daysToYmd_date (timestamp_days ts)
  rw [formatWith]
  split
  · exact ⟨[], rfl⟩
  · rw [decompose_eq value]
    exact ⟨_, rfl⟩

example : formatUtc 1711031400 = some (lit "2024-03-21T14:30:00Z") := by decide +kernel

theorem formatTimestamp_ok (ts : U64) : ∃ text, formatTimestamp ts = some text :=
  formatWith_ok ' ' [] ts

end MgmtTimestamp
