import JooEvents.Kernel.Ids
import Mathlib.Data.Nat.Find
import Mathlib.Order.Interval.Finset.Nat

/-!
# The calendar

Days of the proleptic Gregorian calendar and times of the day. Days are numbered from the first
day of the year 0 (`CalendarDay.number`). Numbering keeps their order
(`CalendarDay.number_lt_of_before`), and every number is that of one day
(`CalendarDay.number_ofNumber`, `CalendarDay.ofNumber_number`). The calendar repeats after an era
of 400 years (`CalendarDay.ofNumber_add_eras`).
-/

namespace JooEvents

def daysInYear (year : ℕ) : ℕ := daysBeforeMonth year 13

theorem daysBeforeMonth_one (year : ℕ) : daysBeforeMonth year 1 = 0 := rfl

theorem daysBeforeMonth_succ (year : ℕ) {month : ℕ} (h : 1 ≤ month) :
    daysBeforeMonth year (month + 1) = daysBeforeMonth year month + daysInMonth year month := by
  obtain ⟨m, rfl⟩ := Nat.exists_eq_add_of_le' h
  rw [daysBeforeMonth, daysBeforeMonth, Nat.add_sub_cancel, List.range_succ, List.map_append,
    List.sum_append, Nat.add_sub_cancel, List.map_singleton, List.sum_singleton]

theorem daysBeforeMonth_le {year m n : ℕ} (h : m ≤ n) :
    daysBeforeMonth year m ≤ daysBeforeMonth year n := by
  induction h with
  | refl => exact le_rfl
  | @step n hmn ih =>
    rcases Nat.eq_zero_or_pos n with rfl | hn
    · exact ih.trans (Nat.zero_le _)
    · rw [daysBeforeMonth_succ year hn]
      omega

theorem daysBeforeMonth_add_le (year : ℕ) {m n : ℕ} (hm : 1 ≤ m) (h : m < n) :
    daysBeforeMonth year m + daysInMonth year m ≤ daysBeforeMonth year n := by
  rw [← daysBeforeMonth_succ year hm]
  exact daysBeforeMonth_le h

theorem daysInYear_eq (year : ℕ) : daysInYear year = 337 + daysInMonth year 2 := by
  simp [daysInYear, daysBeforeMonth, List.range_succ, daysInMonth]
  omega

theorem daysBeforeYear_succ (year : ℕ) :
    daysBeforeYear (year + 1) = daysBeforeYear year + daysInYear year := by
  have h4 : (year + 1 + 3) / 4 = (year + 3) / 4 + if year % 4 = 0 then 1 else 0 := by
    split <;> omega
  have h100 : (year + 1 + 99) / 100 = (year + 99) / 100 + if year % 100 = 0 then 1 else 0 := by
    split <;> omega
  have h400 : (year + 1 + 399) / 400 = (year + 399) / 400 + if year % 400 = 0 then 1 else 0 := by
    split <;> omega
  have hle : (year + 99) / 100 ≤ (year + 3) / 4 := by omega
  have hdvd : (year % 100 = 0 → year % 4 = 0) ∧ (year % 400 = 0 → year % 100 = 0) := by omega
  rw [daysInYear_eq, daysInMonth, if_pos rfl, daysBeforeYear, daysBeforeYear, h4, h100, h400]
  clear h4 h100 h400
  generalize (year + 3) / 4 = fours, (year + 99) / 100 = hundreds,
    (year + 399) / 400 = eras, year % 4 = r4, year % 100 = r100, year % 400 = r400 at *
  split_ifs <;> omega

theorem le_daysBeforeYear (year : ℕ) : 365 * year ≤ daysBeforeYear year := by
  unfold daysBeforeYear
  omega

theorem daysBeforeYear_le {m n : ℕ} (h : m ≤ n) : daysBeforeYear m ≤ daysBeforeYear n := by
  induction h with
  | refl => exact le_rfl
  | step _ ih =>
    rw [daysBeforeYear_succ]
    omega

theorem daysBeforeYear_add_le {m n : ℕ} (h : m < n) :
    daysBeforeYear m + daysInYear m ≤ daysBeforeYear n := by
  rw [← daysBeforeYear_succ]
  exact daysBeforeYear_le h

/-! ## Days -/

/-- A day of the calendar. -/
structure CalendarDay where
  year : ℕ
  month : ℕ
  day : ℕ
  month_range : 1 ≤ month ∧ month ≤ 12
  day_range : 1 ≤ day ∧ day ≤ daysInMonth year month
  deriving DecidableEq

namespace CalendarDay

/-- The days before a day, from the first of the year 0. -/
def number (date : CalendarDay) : ℕ :=
  daysBeforeYear date.year + daysBeforeMonth date.year date.month + (date.day - 1)

theorem offset_lt (date : CalendarDay) :
    daysBeforeMonth date.year date.month + (date.day - 1) < daysInYear date.year := by
  have hmonth := daysBeforeMonth_add_le date.year date.month_range.1
    (show date.month < 13 from Nat.lt_succ_of_le date.month_range.2)
  have hday := date.day_range
  unfold daysInYear
  omega

theorem day_lt (date : CalendarDay) : date.day < 32 := by
  have h := date.day_range.2
  have : daysInMonth date.year date.month ≤ 31 := by
    unfold daysInMonth
    split_ifs <;> omega
  omega

def Before (a b : CalendarDay) : Prop :=
  a.year < b.year ∨ a.year = b.year ∧
    (a.month < b.month ∨ a.month = b.month ∧ a.day < b.day)

theorem number_lt_of_before {a b : CalendarDay} (h : a.Before b) : a.number < b.number := by
  have ha := a.offset_lt
  have hday := a.day_range
  unfold number
  rcases h with hyear | ⟨hyear, hmonth | ⟨hmonth, hlt⟩⟩
  · have := daysBeforeYear_add_le hyear
    omega
  · have := daysBeforeMonth_add_le a.year a.month_range.1 hmonth
    rw [← hyear]
    omega
  · rw [← hyear, ← hmonth]
    omega

theorem before_or_eq_or_before (a b : CalendarDay) : a.Before b ∨ a = b ∨ b.Before a := by
  rcases lt_trichotomy a.year b.year with hyear | hyear | hyear
  · exact .inl (.inl hyear)
  · rcases lt_trichotomy a.month b.month with hmonth | hmonth | hmonth
    · exact .inl (.inr ⟨hyear, .inl hmonth⟩)
    · rcases lt_trichotomy a.day b.day with hday | hday | hday
      · exact .inl (.inr ⟨hyear, .inr ⟨hmonth, hday⟩⟩)
      · right; left
        cases a
        cases b
        simp_all
      · exact .inr (.inr (.inr ⟨hyear.symm, .inr ⟨hmonth.symm, hday⟩⟩))
    · exact .inr (.inr (.inr ⟨hyear.symm, .inl hmonth⟩))
  · exact .inr (.inr (.inl hyear))

theorem number_injective : Function.Injective number := by
  intro a b h
  rcases before_or_eq_or_before a b with hab | hab | hba
  · exact absurd h (number_lt_of_before hab).ne
  · exact hab
  · exact absurd h.symm (number_lt_of_before hba).ne

/-- `YearFromTime` : the last year that has started. -/
def yearOf (n : ℕ) : ℕ := Nat.findGreatest (fun year => daysBeforeYear year ≤ n) (n / 365)

theorem daysBeforeYear_yearOf_le (n : ℕ) : daysBeforeYear (yearOf n) ≤ n :=
  Nat.findGreatest_spec (P := fun year => daysBeforeYear year ≤ n) (Nat.zero_le _)
    (by simp [daysBeforeYear])

theorem lt_daysBeforeYear_of_yearOf_lt {n year : ℕ} (h : yearOf n < year) :
    n < daysBeforeYear year := by
  by_contra hle
  have := le_daysBeforeYear year
  exact Nat.findGreatest_is_greatest h (by omega) (Nat.le_of_not_lt hle)

theorem lt_daysInYear (n : ℕ) : n - daysBeforeYear (yearOf n) < daysInYear (yearOf n) := by
  have hlt := lt_daysBeforeYear_of_yearOf_lt (Nat.lt_succ_self (yearOf n))
  have hle := daysBeforeYear_yearOf_le n
  rw [Nat.succ_eq_add_one, daysBeforeYear_succ] at hlt
  omega

/-- `MonthFromTime` : the last month of a year that has started on its `n`-th day. -/
def monthOf (year n : ℕ) : ℕ :=
  Nat.findGreatest (fun m => daysBeforeMonth year (m + 1) ≤ n) 11 + 1

theorem daysBeforeMonth_monthOf_le (year n : ℕ) : daysBeforeMonth year (monthOf year n) ≤ n :=
  Nat.findGreatest_spec (P := fun m => daysBeforeMonth year (m + 1) ≤ n) (Nat.zero_le 11)
    (by rw [daysBeforeMonth_one]; exact Nat.zero_le n)

theorem monthOf_range (year n : ℕ) : 1 ≤ monthOf year n ∧ monthOf year n ≤ 12 :=
  ⟨Nat.succ_pos _, Nat.succ_le_succ (Nat.findGreatest_le 11)⟩

theorem lt_daysInMonth {year n : ℕ} (h : n < daysInYear year) :
    n - daysBeforeMonth year (monthOf year n) < daysInMonth year (monthOf year n) := by
  have hle := daysBeforeMonth_monthOf_le year n
  have hlt : n < daysBeforeMonth year (monthOf year n + 1) := by
    rcases Nat.lt_or_ge (monthOf year n) 12 with hmonth | hmonth
    · by_contra hge
      exact Nat.findGreatest_is_greatest (P := fun m => daysBeforeMonth year (m + 1) ≤ n)
        (Nat.lt_succ_self _) (by unfold monthOf at hmonth; omega) (Nat.le_of_not_lt hge)
    · rwa [le_antisymm (monthOf_range year n).2 hmonth]
  rw [daysBeforeMonth_succ year (monthOf_range year n).1] at hlt
  omega

def ofNumber (n : ℕ) : CalendarDay where
  year := yearOf n
  month := monthOf (yearOf n) (n - daysBeforeYear (yearOf n))
  day := n - daysBeforeYear (yearOf n) -
    daysBeforeMonth (yearOf n) (monthOf (yearOf n) (n - daysBeforeYear (yearOf n))) + 1
  month_range := monthOf_range _ _
  day_range := ⟨Nat.succ_pos _, lt_daysInMonth (lt_daysInYear n)⟩

theorem number_ofNumber (n : ℕ) : (ofNumber n).number = n := by
  have hyear := daysBeforeYear_yearOf_le n
  have hmonth := daysBeforeMonth_monthOf_le (yearOf n) (n - daysBeforeYear (yearOf n))
  simp only [number, ofNumber]
  omega

theorem year_ofNumber_lt {n year : ℕ} (h : n < daysBeforeYear year) : (ofNumber n).year < year := by
  by_contra hge
  have := daysBeforeYear_le (Nat.le_of_not_lt hge)
  have := daysBeforeYear_yearOf_le n
  simp only [ofNumber] at *
  omega

theorem number_lt (date : CalendarDay) {year : ℕ} (h : date.year < year) :
    date.number < daysBeforeYear year := by
  have hoffset := date.offset_lt
  have hle := daysBeforeYear_add_le h
  unfold number
  omega

end CalendarDay

/-- A time of the day, to the millisecond. -/
structure ClockTime where
  hour : ℕ
  minute : ℕ
  second : ℕ
  millisecond : ℕ
  range : hour < 24 ∧ minute < 60 ∧ second < 60 ∧ millisecond < 1000

namespace ClockTime

def millis (clock : ClockTime) : ℕ :=
  1000 * (60 * (60 * clock.hour + clock.minute) + clock.second) + clock.millisecond

/-- The time that is `n` milliseconds after the start of the day. -/
def ofMillis (n : ℕ) (h : n < 86400000) : ClockTime where
  hour := n / 3600000
  minute := n / 60000 % 60
  second := n / 1000 % 60
  millisecond := n % 1000
  range := by omega

theorem millis_ofMillis (n : ℕ) (h : n < 86400000) : (ofMillis n h).millis = n := by
  simp only [millis, ofMillis]
  omega

end ClockTime

/-- The days of 400 years, after which the calendar repeats. -/
def daysInEra : ℕ := 146097

theorem daysInMonth_add_eras (year k month : ℕ) :
    daysInMonth (year + 400 * k) month = daysInMonth year month := by
  have h4 : (year + 400 * k) % 4 = year % 4 := by omega
  have h100 : (year + 400 * k) % 100 = year % 100 := by omega
  have h400 : (year + 400 * k) % 400 = year % 400 := by omega
  rw [daysInMonth, daysInMonth, h4, h100, h400]

theorem daysBeforeMonth_add_eras (year k month : ℕ) :
    daysBeforeMonth (year + 400 * k) month = daysBeforeMonth year month := by
  simp only [daysBeforeMonth, daysInMonth_add_eras]

theorem daysBeforeYear_add_eras (year k : ℕ) :
    daysBeforeYear (year + 400 * k) = daysBeforeYear year + daysInEra * k := by
  unfold daysBeforeYear daysInEra
  omega

namespace CalendarDay

def addEras (date : CalendarDay) (k : ℕ) : CalendarDay :=
  { date with
    year := date.year + 400 * k
    day_range := by rw [daysInMonth_add_eras]; exact date.day_range }

theorem number_addEras (date : CalendarDay) (k : ℕ) :
    (date.addEras k).number = date.number + daysInEra * k := by
  simp only [number, addEras, daysBeforeYear_add_eras, daysBeforeMonth_add_eras]
  omega

theorem ofNumber_add_eras (n k : ℕ) : ofNumber (n + daysInEra * k) = (ofNumber n).addEras k :=
  number_injective (by rw [number_ofNumber, number_addEras, number_ofNumber])

end CalendarDay

end JooEvents
