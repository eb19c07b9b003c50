import JooEvents.Kernel.Time

/-!
# Local dates and times

What `Intl.DateTimeFormat` shows of a moment in a time zone, as the export writes it : a date and
a time to the minute. A time zone is its offset from UTC at each moment, and moments are counted
in milliseconds from the start of the year 0, there and in UTC.

`readLocal` reads a written date and a written time back as a minute of local time. The year that
is shown has no era, so that a local minute is read back from the texts of its moment if and only
if it lies in the year 1 or later (`readLocal_localDateTime_iff`).
-/

namespace JooEvents.ProgramExport

open ApplicationId (decimalDigits)

/-- The offset of local time from UTC at a moment, in milliseconds. -/
abbrev TimeZone := ℤ → ℤ

namespace TimeZone

def localTime (zone : TimeZone) (t : ℤ) : ℤ := t + zone t

def localMinute (zone : TimeZone) (t : ℤ) : ℤ := zone.localTime t / 60000

def localDay (zone : TimeZone) (t : ℤ) : ℤ := zone.localTime t / 86400000

def minuteOfDay (zone : TimeZone) (t : ℤ) : ℕ := (zone.localTime t % 86400000 / 60000).toNat

/-- The day of the month, with its month, that a moment has in some year of the calendar. -/
def calendarDay (zone : TimeZone) (t : ℤ) : CalendarDay :=
  CalendarDay.ofNumber (zone.localDay t % daysInEra).toNat

/-- The local year of a moment. The year before the year 1 is the year 0. -/
def localYear (zone : TimeZone) (t : ℤ) : ℤ :=
  400 * (zone.localDay t / daysInEra) + (zone.calendarDay t).year

theorem minuteOfDay_lt (zone : TimeZone) (t : ℤ) : zone.minuteOfDay t < 1440 := by
  unfold minuteOfDay
  omega

theorem localMinute_eq (zone : TimeZone) (t : ℤ) :
    zone.localMinute t = 1440 * zone.localDay t + zone.minuteOfDay t := by
  unfold localMinute localDay minuteOfDay
  omega

theorem exists_day_of_localYear (zone : TimeZone) {t : ℤ} (h : 0 ≤ zone.localYear t) :
    ∃ date : CalendarDay, date.year = zone.localYear t ∧
      date.month = (zone.calendarDay t).month ∧ date.day = (zone.calendarDay t).day ∧
      date.number = zone.localDay t := by
  have hera : 0 ≤ zone.localDay t / daysInEra := by
    by_contra hneg
    have hyear : (zone.calendarDay t).year < 400 :=
      CalendarDay.year_ofNumber_lt (by
        rw [show daysBeforeYear 400 = daysInEra from rfl]
        unfold daysInEra
        omega)
    unfold localYear at h
    omega
  refine ⟨(zone.calendarDay t).addEras (zone.localDay t / daysInEra).toNat, ?_, rfl, rfl, ?_⟩
  · rw [localYear]
    show (((zone.calendarDay t).year + 400 * (zone.localDay t / daysInEra).toNat : ℕ) : ℤ) = _
    omega
  · rw [CalendarDay.number_addEras, calendarDay, CalendarDay.number_ofNumber]
    unfold daysInEra at *
    omega

theorem localDay_lt_of_localYear (zone : TimeZone) {t : ℤ} (h : zone.localYear t < 1) :
    zone.localDay t < 366 := by
  rcases lt_or_ge (zone.localYear t) 0 with hneg | hpos
  · have hera : zone.localDay t / daysInEra < 0 := by
      unfold localYear at hneg
      omega
    unfold daysInEra at hera
    omega
  · obtain ⟨date, hyear, -, -, hnumber⟩ := zone.exists_day_of_localYear hpos
    have hlt := date.number_lt (show date.year < 1 by omega)
    rw [show daysBeforeYear 1 = 366 from rfl] at hlt
    omega

end TimeZone

/-- A number as `String(value)` writes it. -/
def numberText (n : ℕ) : String := String.ofList (Nat.toDigits 10 n)

def twoDigits (n : ℕ) : String := String.ofList (decimalDigits 2 n)

/-- The year of its era : the year 0 is shown as 1, the year before it as 2. -/
def yearOfEra (year : ℤ) : ℕ := if 1 ≤ year then year.toNat else (1 - year).toNat

/-- What `formatToParts` says of a moment. -/
structure DateTimeParts where
  year : String
  month : String
  day : String
  hour : String
  minute : String

/-- `formatter.formatToParts(new Date(instant))`. -/
def formatToParts (zone : TimeZone) (t : ℤ) : DateTimeParts where
  year := numberText (yearOfEra (zone.localYear t))
  month := twoDigits (zone.calendarDay t).month
  day := twoDigits (zone.calendarDay t).day
  hour := twoDigits (zone.minuteOfDay t / 60)
  minute := twoDigits (zone.minuteOfDay t % 60)

/-- What `localDateTime` returns. -/
structure LocalDateTime where
  isoDate : String
  date : String
  time : String

def localDateTime (instant : Instant) (zone : TimeZone) : LocalDateTime :=
  let parts := formatToParts zone instant.millis
  { isoDate := parts.year ++ "-" ++ parts.month ++ "-" ++ parts.day
    date := parts.day ++ "/" ++ parts.month ++ "/" ++ parts.year
    time := parts.hour ++ ":" ++ parts.minute }

/-! ## Reading -/

/-- `\d+`, at the end : a year. -/
def readYear (s : List Char) : Option ℕ :=
  if s ≠ [] ∧ s.all Char.isDigit then some (Nat.ofDigitChars 10 s 0) else none

/-- `\d{2}/\d{2}/\d+` : a day, its month and its year. -/
def readLocalDate (s : List Char) : Option CalendarDay := do
  let (day, s) ← readNumber 2 s
  let s ← readMark '/' s
  let (month, s) ← readNumber 2 s
  let s ← readMark '/' s
  let year ← readYear s
  CalendarDay.parse year month day

def readLocal (date time : String) : Option ℤ := do
  let day ← readLocalDate date.toList
  let minutes ← readMinutes time.toList
  return 1440 * (day.number : ℤ) + minutes

theorem readYear_numberText (n : ℕ) : readYear (numberText n).toList = some n := by
  have hdigits : ∀ c ∈ Nat.toDigits 10 n, c.isDigit = true :=
    fun c hc => Nat.isDigit_of_mem_toDigits (by decide) (by decide) hc
  have hne : Nat.toDigits 10 n ≠ [] := Nat.toDigits_ne_nil
  rw [readYear, numberText, String.toList_ofList, if_pos ⟨hne, List.all_eq_true.mpr hdigits⟩,
    Nat.ofDigitChars_ten_toDigits]

theorem readLocalDate_append {year month day : ℕ} (hmonth : month < 100) (hday : day < 100) :
    readLocalDate (twoDigits day ++ "/" ++ twoDigits month ++ "/" ++ numberText year).toList =
      CalendarDay.parse year month day := by
  have htext : (twoDigits day ++ "/" ++ twoDigits month ++ "/" ++ numberText year).toList =
      decimalDigits 2 day ++ '/' :: (decimalDigits 2 month ++
        '/' :: (numberText year).toList) := by
    simp [twoDigits]
  rw [htext, readLocalDate, readNumber_decimalDigits hday]
  simp only [Option.bind_eq_bind, Option.bind_some, readMark_cons,
    readNumber_decimalDigits (show month < 10 ^ 2 from hmonth), readYear_numberText]

theorem readMinutes_append {n : ℕ} (h : n < 1440) :
    readMinutes (twoDigits (n / 60) ++ ":" ++ twoDigits (n % 60)).toList = some n := by
  have htext : (twoDigits (n / 60) ++ ":" ++ twoDigits (n % 60)).toList =
      decimalDigits 2 (n / 60) ++ ':' :: (decimalDigits 2 (n % 60) ++ []) := by
    simp [twoDigits]
  rw [htext, readMinutes, readNumber_decimalDigits (by omega)]
  simp only [Option.bind_eq_bind, Option.bind_some, readMark_cons,
    readNumber_decimalDigits (show n % 60 < 10 ^ 2 by omega)]
  rw [if_pos ⟨by omega, by omega, trivial⟩]
  congr 1
  omega

theorem readLocal_of_localYear {zone : TimeZone} {start : Instant} (finish : Instant)
    (h : 1 ≤ zone.localYear start.millis) :
    readLocal (localDateTime start zone).date (localDateTime finish zone).time =
      some (1440 * zone.localDay start.millis + zone.minuteOfDay finish.millis) := by
  obtain ⟨date, hyear, hmonth, hday, hnumber⟩ :=
    zone.exists_day_of_localYear (t := start.millis) (by omega)
  have hrange := date.month_range
  have hlt := date.day_lt
  have hera : yearOfEra (zone.localYear start.millis) = date.year := by
    rw [yearOfEra, if_pos h]
    omega
  simp only [localDateTime, formatToParts, readLocal, hera, ← hmonth, ← hday]
  rw [readLocalDate_append (by omega) (by omega), CalendarDay.parse_self,
    readMinutes_append (zone.minuteOfDay_lt _)]
  simp only [Option.bind_eq_bind, Option.bind_some, hnumber]
  rfl

theorem le_of_readLocal {zone : TimeZone} {start finish : Instant} {m : ℤ}
    (h : readLocal (localDateTime start zone).date (localDateTime finish zone).time = some m) :
    1440 * 366 ≤ m := by
  have hrange := (zone.calendarDay start.millis).month_range
  have hlt := (zone.calendarDay start.millis).day_lt
  have hyear : 1 ≤ yearOfEra (zone.localYear start.millis) := by
    unfold yearOfEra
    split <;> omega
  simp only [localDateTime, formatToParts, readLocal,
    readLocalDate_append (show (zone.calendarDay start.millis).month < 100 by omega)
      (show (zone.calendarDay start.millis).day < 100 by omega),
    readMinutes_append (zone.minuteOfDay_lt _), Option.bind_eq_bind, Option.bind_some] at h
  obtain ⟨date, hdate, hm⟩ := Option.bind_eq_some_iff.mp h
  have hnumber : 366 ≤ date.number := by
    unfold CalendarDay.parse at hdate
    split at hdate
    · have hle := daysBeforeYear_le hyear
      rw [← Option.some.inj hdate, CalendarDay.number]
      rw [show daysBeforeYear 1 = 366 from rfl] at hle
      exact le_add_right (le_add_right hle)
    · cases hdate
  rw [← Option.some.inj hm]
  omega

theorem readLocal_localDateTime_iff {zone : TimeZone} {t : Instant} :
    readLocal (localDateTime t zone).date (localDateTime t zone).time =
      some (zone.localMinute t.millis) ↔ 1 ≤ zone.localYear t.millis := by
  constructor
  · intro h
    by_contra hyear
    have hle := le_of_readLocal h
    have hday := zone.localDay_lt_of_localYear (t := t.millis) (by omega)
    have hminute := zone.minuteOfDay_lt t.millis
    rw [zone.localMinute_eq] at hle
    omega
  · intro h
    rw [readLocal_of_localYear t h, zone.localMinute_eq]

/-- A local minute says a moment to the minute : it is the local minute of that moment, and of no
moment a minute or more away. -/
def SaysMoment (zone : TimeZone) (minute t : ℤ) : Prop :=
  zone.localMinute t = minute ∧ ∀ x, zone.localMinute x = minute → x < t + 60000 ∧ t < x + 60000

/-- A local minute comes once, as far as a moment in it goes. -/
def ShownOnce (zone : TimeZone) (t : ℤ) : Prop :=
  ∀ x, zone.localMinute x = zone.localMinute t → x < t + 60000 ∧ t < x + 60000

/-- A written date and a written time say a moment to the minute. -/
def Recovers (zone : TimeZone) (date time : String) (t : ℤ) : Prop :=
  ∃ minute, readLocal date time = some minute ∧ SaysMoment zone minute t

theorem recovers_start_iff {zone : TimeZone} {t : Instant} :
    Recovers zone (localDateTime t zone).date (localDateTime t zone).time t.millis ↔
      1 ≤ zone.localYear t.millis ∧ ShownOnce zone t.millis := by
  rw [← readLocal_localDateTime_iff]
  constructor
  · rintro ⟨_, hread, rfl, honce⟩
    exact ⟨hread, honce⟩
  · rintro ⟨hread, honce⟩
    exact ⟨_, hread, rfl, honce⟩

theorem recovers_end_iff {zone : TimeZone} {start finish : Instant}
    (h : 1 ≤ zone.localYear start.millis) :
    Recovers zone (localDateTime start zone).date (localDateTime finish zone).time
        finish.millis ↔
      zone.localDay start.millis = zone.localDay finish.millis ∧
        ShownOnce zone finish.millis := by
  have hread := readLocal_of_localYear finish h
  have heq := zone.localMinute_eq finish.millis
  constructor
  · rintro ⟨minute, hminute, rfl, honce⟩
    rw [hread] at hminute
    have := Option.some.inj hminute
    exact ⟨by omega, honce⟩
  · rintro ⟨hday, honce⟩
    exact ⟨_, hread, by rw [heq, hday], fun x hx => honce x (by rw [hx, heq, hday])⟩

end JooEvents.ProgramExport
