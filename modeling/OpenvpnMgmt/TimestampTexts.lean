import OpenvpnMgmt.Timestamp
import OpenvpnMgmt.Lib.Numerals

/-!
Timestamps as texts. Different timestamps have different texts, and while the years have four
digits the texts are in the order of the timestamps; the empty text of an unset one comes first.
-/
namespace MgmtTimestampTexts
open TextOps MgmtValues MgmtTimestamp Gregorian Numerals

def fiveDigits : Nat := 253402300800

def Faithful (format : U64 → Option Text) : Prop :=
  ∀ a b, ∃ s t, format a = some s ∧ format b = some t ∧ (s = t ↔ a = b) ∧
    (a.toNat < fiveDigits → b.toNat < fiveDigits → (s < t ↔ a.toNat < b.toNat))

/-! Fields -/

theorem padded_numeral (width n : Nat) : IsNumeral (padded width n) := by
  intro c member
  simp only [padded, List.leftpad, List.mem_append, List.mem_replicate] at member
  rcases member with ⟨-, rfl⟩ | inside
  · decide
  · exact Nat.isDigit_of_mem_toDigits (by omega) (by omega) inside

theorem padded_value (width n : Nat) : value (padded width n) = n := by
  rw [value, padded, List.leftpad, Nat.ofDigitChars_append, Nat.ofDigitChars_replicate_zero,
    Nat.mul_zero, Nat.ofDigitChars_ten_toDigits]

theorem padded_length {width n : Nat} (positive : 0 < width) (fits : n < 10 ^ width) :
    (padded width n).length = width := by
  have few := (Nat.length_toDigits_le_iff (by omega) positive).mpr fits
  rw [padded, List.length_leftpad]
  omega

theorem padded_inj {width m n : Nat} (same : padded width m = padded width n) : m = n := by
  rw [← padded_value width m, same, padded_value]

theorem dash_not_mem (width n : Nat) : '-' ∉ padded width n := by
  intro member
  have digit := padded_numeral width n '-' member
  simp [Char.isDigit] at digit

theorem field_lt {width m n : Nat} (positive : 0 < width) (mFits : m < 10 ^ width)
    (nFits : n < 10 ^ width) {s t : Text} (order : m < n ∨ m = n ∧ s < t) :
    padded width m ++ s < padded width n ++ t := by
  rcases order with less | ⟨rfl, behind⟩
  · have same := (padded_length positive mFits).trans (padded_length positive nFits).symm
    apply numeral_lt (padded_numeral _ _) (padded_numeral _ _) same
    rw [padded_value, padded_value]
    exact less
  · exact List.append_left_lt behind

theorem separated_lt (c : Char) {s t : Text} (behind : s < t) : c :: s < c :: t :=
  List.cons_lt_cons_iff.mpr (Or.inr ⟨rfl, behind⟩)

theorem field_cancel {width m n : Nat} (positive : 0 < width) (mFits : m < 10 ^ width)
    (nFits : n < 10 ^ width) {s t : Text} (same : padded width m ++ s = padded width n ++ t) :
    m = n ∧ s = t := by
  have lengths := (padded_length positive mFits).trans (padded_length positive nFits).symm
  obtain ⟨numerals, rest⟩ := List.append_inj same lengths
  exact ⟨padded_inj numerals, rest⟩

/-! Dates -/

theorem date_before {a b : Date} {epoch : Nat} (since : epoch ≤ b.year)
    (days : a.daysFrom epoch < b.daysFrom epoch) :
    a.year < b.year ∨ a.year = b.year ∧ (a.month < b.month ∨
      a.month = b.month ∧ a.day < b.day) := by
  by_contra other
  have cases : (b.year < a.year ∨ b.year = a.year ∧ (b.month < a.month ∨
      b.month = a.month ∧ b.day < a.day)) ∨
      (a.year = b.year ∧ a.month = b.month ∧ a.day = b.day) := by omega
  rcases cases with later | ⟨year, month, day⟩
  · have wrong := Date.daysFrom_lt since later
    omega
  · simp [Date.daysFrom, year, month, day] at days

theorem date_same {a b : Date} {epoch : Nat} (aSince : epoch ≤ a.year) (bSince : epoch ≤ b.year)
    (days : a.daysFrom epoch = b.daysFrom epoch) :
    a.year = b.year ∧ a.month = b.month ∧ a.day = b.day := by
  by_contra other
  have cases : (a.year < b.year ∨ a.year = b.year ∧ (a.month < b.month ∨
      a.month = b.month ∧ a.day < b.day)) ∨
      (b.year < a.year ∨ b.year = a.year ∧ (b.month < a.month ∨
      b.month = a.month ∧ b.day < a.day)) := by omega
  rcases cases with earlier | later
  · have wrong := Date.daysFrom_lt aSince earlier
    omega
  · have wrong := Date.daysFrom_lt bSince later
    omega

/-! Texts -/

def timeText (separator : Char) (zone : Text) (ts : U64) : Text :=
  separator :: (padded 2 (ts.toNat / 60 / 60 % 24) ++ ':' :: (padded 2 (ts.toNat / 60 % 60) ++
    ':' :: (padded 2 (ts.toNat % 60) ++ zone)))

def dateText (date : Date) (rest : Text) : Text :=
  padded 4 date.year ++ '-' :: (padded 2 date.month ++ '-' :: (padded 2 date.day ++ rest))

theorem dateText_ne_nil (date : Date) (rest : Text) : dateText date rest ≠ [] := by
  simp [dateText]

theorem formatWith_set (separator : Char) (zone : Text) {ts : U64} (set : ts ≠ 0) :
    ∃ date : Date, 1970 ≤ date.year ∧ date.daysFrom 1970 = ts.toNat / 60 / 60 / 24 ∧
      formatWith separator zone ts = some (dateText date (timeText separator zone ts)) := by
  obtain ⟨date, late, value, days⟩ := daysToYmd_date (timestamp_days ts)
  refine ⟨date, late, days, ?_⟩
  rw [formatWith, if_neg set, decompose_eq value]
  rfl

theorem two_digits {date : Date} : date.month < 10 ^ 2 ∧ date.day < 10 ^ 2 := by
  have month := date.month_le
  have day := date.day_le
  have longest : monthLength date.year date.month ≤ 31 := by
    unfold monthLength
    split_ifs <;> omega
  omega

theorem four_digits {date : Date} {ts : U64} (days : date.daysFrom 1970 = ts.toNat / 60 / 60 / 24)
    (early : ts.toNat < fiveDigits) : date.year < 10 ^ 4 := by
  by_contra late
  have many : yearDays 9999 ≤ yearDays 1969 + date.daysFrom (1969 + 1) :=
    Date.daysFrom_ge (by omega) (by omega)
  have before : yearDays 9999 = 3652059 := rfl
  have start : yearDays 1969 = 719162 := rfl
  rw [fiveDigits] at early
  have whole : date.daysFrom (1969 + 1) = ts.toNat / 60 / 60 / 24 := days
  omega

theorem time_lt (separator : Char) (zone : Text) {a b : U64} (earlier : a.toNat < b.toNat)
    (sameDay : a.toNat / 60 / 60 / 24 = b.toNat / 60 / 60 / 24) :
    timeText separator zone a < timeText separator zone b := by
  have order : a.toNat / 60 / 60 % 24 < b.toNat / 60 / 60 % 24 ∨
      a.toNat / 60 / 60 % 24 = b.toNat / 60 / 60 % 24 ∧
        (a.toNat / 60 % 60 < b.toNat / 60 % 60 ∨ a.toNat / 60 % 60 = b.toNat / 60 % 60 ∧
          a.toNat % 60 < b.toNat % 60) := by omega
  apply separated_lt
  apply field_lt (by omega) (by omega) (by omega)
  rcases order with hours | ⟨sameHour, minutes | ⟨sameMinute, seconds⟩⟩
  · exact Or.inl hours
  · refine Or.inr ⟨sameHour, separated_lt _ ?_⟩
    exact field_lt (by omega) (by omega) (by omega) (Or.inl minutes)
  · refine Or.inr ⟨sameHour, separated_lt _ ?_⟩
    apply field_lt (by omega) (by omega) (by omega)
    refine Or.inr ⟨sameMinute, separated_lt _ ?_⟩
    exact field_lt (by omega) (by omega) (by omega) (Or.inl seconds)

theorem date_lt {a b : Date} (aYear : a.year < 10 ^ 4) (bYear : b.year < 10 ^ 4) {s t : Text}
    (order : (a.year < b.year ∨ a.year = b.year ∧ (a.month < b.month ∨
      a.month = b.month ∧ a.day < b.day)) ∨
      (a.year = b.year ∧ a.month = b.month ∧ a.day = b.day) ∧ s < t) :
    dateText a s < dateText b t := by
  obtain ⟨aMonth, aDay⟩ := @two_digits a
  obtain ⟨bMonth, bDay⟩ := @two_digits b
  apply field_lt (by omega) aYear bYear
  rcases order with (years | ⟨year, months | ⟨month, days⟩⟩) | ⟨⟨year, month, day⟩, behind⟩
  · exact Or.inl years
  · refine Or.inr ⟨year, separated_lt _ ?_⟩
    exact field_lt (by omega) aMonth bMonth (Or.inl months)
  · refine Or.inr ⟨year, separated_lt _ ?_⟩
    apply field_lt (by omega) aMonth bMonth
    refine Or.inr ⟨month, separated_lt _ ?_⟩
    exact field_lt (by omega) aDay bDay (Or.inl days)
  · refine Or.inr ⟨year, separated_lt _ ?_⟩
    apply field_lt (by omega) aMonth bMonth
    refine Or.inr ⟨month, separated_lt _ ?_⟩
    exact field_lt (by omega) aDay bDay (Or.inr ⟨day, behind⟩)

/-- The year may have more digits; the dash ends it. -/
theorem dateText_cancel {a b : Date} {s t : Text} (same : dateText a s = dateText b t) :
    (a.year = b.year ∧ a.month = b.month ∧ a.day = b.day) ∧ s = t := by
  obtain ⟨aMonth, aDay⟩ := @two_digits a
  obtain ⟨bMonth, bDay⟩ := @two_digits b
  have cut := congrArg (splitOnce (· == '-')) same
  simp only [dateText, splitOnce_append (free_of (dash_not_mem 4 a.year)) (beq_self_eq_true '-'),
    splitOnce_append (free_of (dash_not_mem 4 b.year)) (beq_self_eq_true '-'), Option.some.injEq,
    Prod.mk.injEq] at cut
  obtain ⟨years, rest⟩ := cut
  obtain ⟨month, rest⟩ := field_cancel (by omega) aMonth bMonth rest
  obtain ⟨day, rest⟩ := field_cancel (by omega) aDay bDay ((List.cons_inj_right _).mp rest)
  exact ⟨⟨padded_inj years, month, day⟩, rest⟩

theorem timeText_cancel {separator : Char} {zone : Text} {a b : U64}
    (same : timeText separator zone a = timeText separator zone b) :
    a.toNat / 60 / 60 % 24 = b.toNat / 60 / 60 % 24 ∧
      a.toNat / 60 % 60 = b.toNat / 60 % 60 ∧ a.toNat % 60 = b.toNat % 60 := by
  obtain ⟨hour, rest⟩ := field_cancel (by omega) (by omega) (by omega)
    ((List.cons_inj_right _).mp same)
  obtain ⟨minute, rest⟩ := field_cancel (by omega) (by omega) (by omega)
    ((List.cons_inj_right _).mp rest)
  obtain ⟨second, -⟩ := field_cancel (by omega) (by omega) (by omega)
    ((List.cons_inj_right _).mp rest)
  exact ⟨hour, minute, second⟩

/-! The order of texts -/

theorem set_texts_lt {separator : Char} {zone s t : Text} {a b : U64}
    (aSet : a ≠ 0) (aText : formatWith separator zone a = some s)
    (bText : formatWith separator zone b = some t) (bEarly : b.toNat < fiveDigits)
    (earlier : a.toNat < b.toNat) : s < t := by
  have bSet : b ≠ 0 := by
    rintro rfl
    simp at earlier
  obtain ⟨first, aLate, aDays, aShape⟩ := formatWith_set separator zone aSet
  obtain ⟨second, bLate, bDays, bShape⟩ := formatWith_set separator zone bSet
  obtain rfl := Option.some.inj (aText.symm.trans aShape)
  obtain rfl := Option.some.inj (bText.symm.trans bShape)
  apply date_lt (four_digits aDays (by omega)) (four_digits bDays bEarly)
  by_cases sameDay : a.toNat / 60 / 60 / 24 = b.toNat / 60 / 60 / 24
  · exact Or.inr ⟨date_same aLate bLate (by omega), time_lt separator zone earlier sameDay⟩
  · exact Or.inl (date_before bLate (by omega))

theorem texts_lt {separator : Char} {zone s t : Text} {a b : U64}
    (aText : formatWith separator zone a = some s)
    (bText : formatWith separator zone b = some t) (bEarly : b.toNat < fiveDigits)
    (earlier : a.toNat < b.toNat) : s < t := by
  by_cases unset : a = 0
  · subst unset
    have bSet : b ≠ 0 := by
      rintro rfl
      simp at earlier
    obtain ⟨date, -, -, shape⟩ := formatWith_set separator zone bSet
    obtain rfl := Option.some.inj (bText.symm.trans shape)
    obtain rfl : [] = s := Option.some.inj aText
    obtain ⟨c, rest, shape⟩ :=
      List.exists_cons_of_ne_nil (dateText_ne_nil date (timeText separator zone b))
    rw [shape]
    exact List.nil_lt_cons c rest
  · exact set_texts_lt unset aText bText bEarly earlier

theorem texts_inj {separator : Char} {zone s : Text} {a b : U64}
    (aText : formatWith separator zone a = some s)
    (bText : formatWith separator zone b = some s) : a = b := by
  by_cases aSet : a = 0
  · by_cases bSet : b = 0
    · rw [aSet, bSet]
    · obtain ⟨date, -, -, shape⟩ := formatWith_set separator zone bSet
      obtain rfl : [] = s := by simpa [aSet, formatWith] using aText
      exact absurd (Option.some.inj (shape.symm.trans bText)) (dateText_ne_nil date _)
  · obtain ⟨first, aLate, aDays, aShape⟩ := formatWith_set separator zone aSet
    by_cases bSet : b = 0
    · obtain rfl : [] = s := by simpa [bSet, formatWith] using bText
      exact absurd (Option.some.inj (aShape.symm.trans aText)) (dateText_ne_nil first _)
    · obtain ⟨other, bLate, bDays, bShape⟩ := formatWith_set separator zone bSet
      have same := Option.some.inj ((aShape.symm.trans aText).trans (bText.symm.trans bShape))
      obtain ⟨⟨year, month, day⟩, time⟩ := dateText_cancel same
      obtain ⟨hour, minute, second⟩ := timeText_cancel time
      have days : first.daysFrom 1970 = other.daysFrom 1970 := by
        simp [Date.daysFrom, year, month, day]
      apply BitVec.eq_of_toNat_eq
      omega

theorem formatWith_faithful (separator : Char) (zone : Text) :
    Faithful (formatWith separator zone) := by
  intro a b
  obtain ⟨s, aText⟩ := formatWith_ok separator zone a
  obtain ⟨t, bText⟩ := formatWith_ok separator zone b
  refine ⟨s, t, aText, bText, ⟨?_, ?_⟩, ?_⟩
  · rintro rfl
    exact texts_inj aText bText
  · rintro rfl
    exact Option.some.inj (aText.symm.trans bText)
  · intro aEarly bEarly
    constructor
    · intro less
      rcases Nat.lt_trichotomy a.toNat b.toNat with earlier | same | later
      · exact earlier
      · obtain rfl := BitVec.eq_of_toNat_eq same
        obtain rfl := Option.some.inj (aText.symm.trans bText)
        exact absurd less (List.lt_irrefl _)
      · exact absurd less (List.lt_asymm (texts_lt bText aText aEarly later))
    · exact texts_lt aText bText bEarly

/-- `format_utc` and `format_timestamp` never fail, no text stands for two timestamps, and up to the
    year 9999 the texts sort as the timestamps do. -/
theorem timestamps_faithful : Faithful formatUtc ∧ Faithful formatTimestamp :=
  ⟨formatWith_faithful 'T' ['Z'], formatWith_faithful ' ' []⟩

-- The next text sorts before all of them.
example : formatUtc (BitVec.ofNat 64 fiveDigits) = some (lit "10000-01-01T00:00:00Z") := by
  decide +kernel

end MgmtTimestampTexts
