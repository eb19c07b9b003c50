import JooEvents.Kernel.Calendar

/-!
# Time

The part of `Date` that the packages use, and `parseInstant`. A moment is counted in milliseconds
from the start of the year 0. `toISOString` writes it : up to the end of the year 9999 as a
canonical instant (`toISOString_of_inFourDigitYears`), and outside as a text that starts with a
sign (`head_toISOString`). `IsoDatetime.read` reads the date-times of RFC 3339, an instant among
them (`IsoDatetime.read_instant`).
-/

namespace JooEvents

open ApplicationId (decimalDigits)

/-- What follows the year in the text of these numbers. -/
def isoNumbers (month day hour minute second millisecond : ℕ) : List Char :=
  '-' :: (decimalDigits 2 month ++ '-' :: (decimalDigits 2 day ++
    'T' :: (decimalDigits 2 hour ++ ':' :: (decimalDigits 2 minute ++
      ':' :: (decimalDigits 2 second ++ '.' :: (decimalDigits 3 millisecond ++ ['Z']))))))

/-- What follows the year in the text of a day and a time. -/
def isoTail (date : CalendarDay) (clock : ClockTime) : List Char :=
  isoNumbers date.month date.day clock.hour clock.minute clock.second clock.millisecond

/-- A year in four digits, or else with a sign in six. -/
def isoYear (year : ℤ) : List Char :=
  if 0 ≤ year ∧ year ≤ 9999 then decimalDigits 4 year.toNat
  else (if year < 0 then '-' else '+') :: decimalDigits 6 year.natAbs

/-- `new Date(t).toISOString()`, for a moment in milliseconds from the start of the year 0. -/
def toISOString (t : ℤ) : String :=
  let day := t / 86400000
  let date := CalendarDay.ofNumber (day % daysInEra).toNat
  let clock := ClockTime.ofMillis (t % 86400000).toNat (by omega)
  String.ofList (isoYear (400 * (day / daysInEra) + date.year) ++ isoTail date clock)

/-! ## Canonical instants -/

theorem isDigitChar_decimalDigit (n : ℕ) : isDigitChar (Char.ofNat (48 + n % 10)) = true := by
  rw [isDigitChar, ApplicationId.toNat_decimalDigit, decide_eq_true_eq]
  omega

theorem digitsAt_decimalDigits :
    ∀ {k n : ℕ}, n < 10 ^ k → ∀ s, digitsAt 0 k (decimalDigits k n ++ s) = n := by
  intro k n h s
  rw [digitsAt, List.drop_zero, List.take_append_of_le_length
    (ApplicationId.length_decimalDigits k n).ge, List.take_of_length_le
    (ApplicationId.length_decimalDigits k n).le]
  induction k generalizing n with
  | zero => simp at h; simp [decimalDigits, h]
  | succ k ih =>
    rw [decimalDigits, List.foldl_append, ih (Nat.div_lt_of_lt_mul (by rw [pow_succ] at h; omega)), List.foldl_cons, List.foldl_nil,
      ApplicationId.toNat_decimalDigit]
    omega

theorem digitsAt_decimalDigits_append (k n : ℕ) (s : List Char) (start len : ℕ) :
    digitsAt (k + start) len (decimalDigits k n ++ s) = digitsAt start len s := by
  have h := digitsAt_append (decimalDigits k n) s start len
  rwa [ApplicationId.length_decimalDigits] at h

/-- The text of a day and a time of a year of four digits. -/
def isoText (date : CalendarDay) (clock : ClockTime) : List Char :=
  decimalDigits 4 date.year ++ isoTail date clock

theorem matchesShape_isoText (date : CalendarDay) (clock : ClockTime) :
    matchesShape instantShape (isoText date clock) = true := by
  simp [instantShape, instantTailShape, isoText, isoTail, isoNumbers, decimalDigits, matchesShape,
    List.replicate, isDigitChar_decimalDigit, isOneOf]

theorem digits_isoNumbers {year month day hour minute second millisecond : ℕ}
    (hyear : year < 10000) (hmonth : month < 100) (hday : day < 100) (hhour : hour < 100)
    (hminute : minute < 100) (hsecond : second < 100) (hmillisecond : millisecond < 1000)
    {s : List Char}
    (hs : s = decimalDigits 4 year ++ isoNumbers month day hour minute second millisecond) :
    digitsAt 0 4 s = year ∧ digitsAt 5 2 s = month ∧ digitsAt 8 2 s = day ∧
      digitsAt 11 2 s = hour ∧ digitsAt 14 2 s = minute ∧ digitsAt 17 2 s = second ∧
      digitsAt 20 3 s = millisecond := by
  have hskip : ∀ start len, digitsAt (4 + (start + 1)) len s =
      digitsAt start len (isoNumbers month day hour minute second millisecond).tail :=
    fun start len => by rw [hs]; exact digitsAt_decimalDigits_append 4 _ _ _ _
  have hnext : ∀ n c s start len, digitsAt (2 + (start + 1)) len (decimalDigits 2 n ++ c :: s) =
      digitsAt start len s := fun n c s start len => digitsAt_decimalDigits_append 2 n _ _ _
  refine ⟨?_, (hskip 0 2).trans ?_, (hskip 3 2).trans ?_,
    (hskip 6 2).trans ?_, (hskip 9 2).trans ?_, (hskip 12 2).trans ?_, (hskip 15 3).trans ?_⟩
  · rw [hs]
    exact digitsAt_decimalDigits hyear _
  · exact digitsAt_decimalDigits hmonth _
  · exact (hnext _ _ _ 0 2).trans (digitsAt_decimalDigits hday _)
  · exact (hnext _ _ _ 3 2).trans ((hnext _ _ _ 0 2).trans (digitsAt_decimalDigits hhour _))
  · exact (hnext _ _ _ 6 2).trans ((hnext _ _ _ 3 2).trans
      ((hnext _ _ _ 0 2).trans (digitsAt_decimalDigits hminute _)))
  · exact (hnext _ _ _ 9 2).trans ((hnext _ _ _ 6 2).trans ((hnext _ _ _ 3 2).trans
      ((hnext _ _ _ 0 2).trans (digitsAt_decimalDigits hsecond _))))
  · exact (hnext _ _ _ 12 3).trans ((hnext _ _ _ 9 3).trans ((hnext _ _ _ 6 3).trans
      ((hnext _ _ _ 3 3).trans ((hnext _ _ _ 0 3).trans
        (digitsAt_decimalDigits hmillisecond _)))))

theorem digits_isoText (date : CalendarDay) (clock : ClockTime) (h : date.year ≤ 9999) :
    digitsAt 0 4 (isoText date clock) = date.year ∧
      digitsAt 5 2 (isoText date clock) = date.month ∧
      digitsAt 8 2 (isoText date clock) = date.day ∧
      digitsAt 11 2 (isoText date clock) = clock.hour ∧
      digitsAt 14 2 (isoText date clock) = clock.minute ∧
      digitsAt 17 2 (isoText date clock) = clock.second ∧
      digitsAt 20 3 (isoText date clock) = clock.millisecond := by
  have hmonth := date.month_range
  have hday := date.day_lt
  have hclock := clock.range
  exact digits_isoNumbers (by omega) (by omega) (by omega) (by omega) (by omega) (by omega)
    (by omega) rfl

def Instant.at (date : CalendarDay) (clock : ClockTime) (h : date.year ≤ 9999) : Instant :=
  ⟨String.ofList (isoText date clock), by
    obtain ⟨hyear, hmonth, hday, hhour, hminute, hsecond, -⟩ := digits_isoText date clock h
    have hdate := date.day_range
    have hrange := date.month_range
    have hclock := clock.range
    rw [isInstant, String.toList_ofList, matchesShape_isoText, Bool.true_and, decide_eq_true_eq,
      hyear, hmonth, hday, hhour, hminute, hsecond]
    omega⟩

theorem matchesShape_nil_iff {cs : List Char} : matchesShape [] cs = true ↔ cs = [] := by
  cases cs <;> simp [matchesShape]

theorem matchesShape_cons_iff {p : Char → Bool} {ps : List (Char → Bool)} {cs : List Char} :
    matchesShape (p :: ps) cs = true ↔
      ∃ c ds, cs = c :: ds ∧ p c = true ∧ matchesShape ps ds = true := by
  cases cs <;> simp [matchesShape]

theorem of_matchesShape_append :
    ∀ {ps qs : List (Char → Bool)} {cs : List Char}, matchesShape (ps ++ qs) cs = true →
      ∃ as bs, cs = as ++ bs ∧ matchesShape ps as = true ∧ matchesShape qs bs = true
  | [], _, cs, h => ⟨[], cs, rfl, rfl, h⟩
  | _ :: _, _, c :: _, h => by
    rw [List.cons_append, matchesShape, Bool.and_eq_true] at h
    obtain ⟨as, bs, rfl, has, hbs⟩ := of_matchesShape_append h.2
    exact ⟨c :: as, bs, rfl, by rw [matchesShape, h.1, has, Bool.and_true], hbs⟩

theorem ofNat_digit {c : Char} (h : isDigitChar c = true) {n : ℕ} :
    Char.ofNat (48 + (10 * n + (c.val.toNat - 48)) % 10) = c := by
  rw [isDigitChar, decide_eq_true_eq] at h
  refine Char.ext (UInt32.toNat_inj.mp ?_)
  rw [ApplicationId.toNat_decimalDigit]
  omega

theorem decimalDigits_digits (s : List Char) (h : ∀ c ∈ s, isDigitChar c = true) :
    s.foldl (fun n c => 10 * n + (c.val.toNat - 48)) 0 < 10 ^ s.length ∧
      decimalDigits s.length (s.foldl (fun n c => 10 * n + (c.val.toNat - 48)) 0) = s := by
  induction s using List.reverseRecOn with
  | nil => exact ⟨by decide, rfl⟩
  | append_singleton s c ih =>
    obtain ⟨hlt, hdigits⟩ := ih fun d hd => h d (by simp [hd])
    have hc := h c (by simp)
    have hrange : c.val.toNat - 48 < 10 := by
      rw [isDigitChar, decide_eq_true_eq] at hc
      omega
    rw [List.foldl_append, List.foldl_cons, List.foldl_nil, List.length_append,
      List.length_singleton, pow_succ]
    refine ⟨by omega, ?_⟩
    rw [decimalDigits, ofNat_digit hc, show (10 * s.foldl (fun n c => 10 * n + (c.val.toNat - 48)) 0 +
      (c.val.toNat - 48)) / 10 = s.foldl (fun n c => 10 * n + (c.val.toNat - 48)) 0 by omega,
      hdigits]

theorem exists_decimalDigits {k : ℕ} {ps : List (Char → Bool)} {cs : List Char}
    (h : matchesShape (List.replicate k isDigitChar ++ ps) cs = true) :
    ∃ n rest, n < 10 ^ k ∧ cs = decimalDigits k n ++ rest ∧ matchesShape ps rest = true := by
  obtain ⟨as, rest, rfl, has, hrest⟩ := of_matchesShape_append h
  obtain ⟨rfl, hall⟩ := of_matchesShape_replicate has
  obtain ⟨hlt, hdigits⟩ := decimalDigits_digits as hall
  exact ⟨_, rest, hlt, by rw [hdigits], hrest⟩

theorem exists_mark_decimalDigits {c : Char} {k : ℕ} {ps : List (Char → Bool)} {cs : List Char}
    (h : matchesShape (isOneOf [c] :: (List.replicate k isDigitChar ++ ps)) cs = true) :
    ∃ n rest, n < 10 ^ k ∧ cs = c :: (decimalDigits k n ++ rest) ∧ matchesShape ps rest = true := by
  obtain ⟨d, cs, rfl, hd, h⟩ := matchesShape_cons_iff.mp h
  obtain ⟨n, rest, hn, rfl, hrest⟩ := exists_decimalDigits h
  exact ⟨n, rest, hn, by rw [List.mem_singleton.mp (List.contains_iff_mem.mp hd)], hrest⟩

theorem Instant.exists_at (t : Instant) :
    ∃ (date : CalendarDay) (clock : ClockTime) (h : date.year ≤ 9999),
      t = Instant.at date clock h := by
  obtain ⟨hshape, hnumbers⟩ := Bool.and_eq_true_iff.mp t.property
  have hnested : instantShape = List.replicate 4 isDigitChar ++ (isOneOf ['-'] ::
      (List.replicate 2 isDigitChar ++ (isOneOf ['-'] :: (List.replicate 2 isDigitChar ++
        (isOneOf ['T'] :: (List.replicate 2 isDigitChar ++ (isOneOf [':'] ::
          (List.replicate 2 isDigitChar ++ (isOneOf [':'] :: (List.replicate 2 isDigitChar ++
            (isOneOf ['.'] :: (List.replicate 3 isDigitChar ++ [isOneOf ['Z']])))))))))))) := rfl
  rw [hnested] at hshape
  obtain ⟨year, s, hyear, htext, h₁⟩ := exists_decimalDigits hshape
  obtain ⟨month, s, hmonth, rfl, h₂⟩ := exists_mark_decimalDigits h₁
  obtain ⟨day, s, hday, rfl, h₃⟩ := exists_mark_decimalDigits h₂
  obtain ⟨hour, s, hhour, rfl, h₄⟩ := exists_mark_decimalDigits h₃
  obtain ⟨minute, s, hminute, rfl, h₅⟩ := exists_mark_decimalDigits h₄
  obtain ⟨second, s, hsecond, rfl, h₆⟩ := exists_mark_decimalDigits h₅
  obtain ⟨millisecond, s, hmillisecond, rfl, h₇⟩ := exists_mark_decimalDigits h₆
  obtain ⟨z, s, rfl, hz, h₈⟩ := matchesShape_cons_iff.mp h₇
  rw [matchesShape_nil_iff.mp h₈, List.mem_singleton.mp (List.contains_iff_mem.mp hz)] at htext
  obtain ⟨hy, hmo, hd, hh, hmi, hsec, -⟩ :=
    digits_isoNumbers hyear hmonth hday hhour hminute hsecond hmillisecond htext
  rw [decide_eq_true_eq, hy, hmo, hd, hh, hmi, hsec] at hnumbers
  refine ⟨⟨year, month, day, by omega, by omega⟩,
    ⟨hour, minute, second, millisecond, by omega⟩, show year ≤ 9999 by omega, Subtype.ext ?_⟩
  rw [← String.toList_inj, htext, Instant.at, String.toList_ofList]
  rfl

theorem isoTail_addEras (date : CalendarDay) (k : ℕ) (clock : ClockTime) :
    isoTail (date.addEras k) clock = isoTail date clock := rfl

def InFourDigitYears (t : ℤ) : Prop := 0 ≤ t ∧ t < 86400000 * daysBeforeYear 10000

instance (t : ℤ) : Decidable (InFourDigitYears t) := inferInstanceAs (Decidable (_ ∧ _))

theorem toISOString_natCast (t : ℕ) :
    toISOString t = String.ofList (isoYear (CalendarDay.ofNumber (t / 86400000)).year ++
      isoTail (CalendarDay.ofNumber (t / 86400000))
        (ClockTime.ofMillis (t % 86400000) (Nat.mod_lt _ (by omega)))) := by
  have hday : ((t : ℤ) / 86400000 % daysInEra).toNat = t / 86400000 % daysInEra := by
    unfold daysInEra
    omega
  have hera : (t : ℤ) / 86400000 / daysInEra = (t / 86400000 / daysInEra : ℕ) := by
    unfold daysInEra
    omega
  have hclock : ((t : ℤ) % 86400000).toNat = t % 86400000 := by omega
  have hdate := CalendarDay.ofNumber_add_eras (t / 86400000 % daysInEra) (t / 86400000 / daysInEra)
  rw [Nat.mod_add_div] at hdate
  simp only [toISOString, hday, hera, hclock]
  have hyear : 400 * ((t / 86400000 / daysInEra : ℕ) : ℤ) +
      (CalendarDay.ofNumber (t / 86400000 % daysInEra)).year =
        (CalendarDay.ofNumber (t / 86400000)).year := by
    rw [hdate]
    simp only [CalendarDay.addEras]
    omega
  rw [hyear, hdate, isoTail_addEras]

theorem toISOString_of_inFourDigitYears {t : ℤ} (h : InFourDigitYears t) :
    ∃ (date : CalendarDay) (clock : ClockTime) (hyear : date.year ≤ 9999),
      toISOString t = (Instant.at date clock hyear).val ∧
        86400000 * date.number + clock.millis = t := by
  obtain ⟨n, rfl⟩ := Int.eq_ofNat_of_zero_le h.1
  have hlt : n / 86400000 < daysBeforeYear 10000 := by
    have := h.2
    generalize daysBeforeYear 10000 = bound at *
    omega
  have hyear : (CalendarDay.ofNumber (n / 86400000)).year ≤ 9999 :=
    Nat.le_of_lt_succ (CalendarDay.year_ofNumber_lt hlt)
  refine ⟨_, ClockTime.ofMillis (n % 86400000) (Nat.mod_lt _ (by omega)), hyear, ?_, ?_⟩
  · rw [toISOString_natCast, isoYear, if_pos (by omega), Int.toNat_natCast]
    rfl
  · rw [CalendarDay.number_ofNumber, ClockTime.millis_ofMillis]
    omega

theorem head_toISOString {t : ℤ} (h : ¬ InFourDigitYears t) :
    ∃ c s, (c = '-' ∨ c = '+') ∧ (toISOString t).toList = c :: s := by
  have hyear : ∀ (year : ℤ) (s : List Char), ¬ (0 ≤ year ∧ year ≤ 9999) →
      ∃ c s', (c = '-' ∨ c = '+') ∧ isoYear year ++ s = c :: s' := by
    intro year s hout
    refine ⟨if year < 0 then '-' else '+', decimalDigits 6 year.natAbs ++ s, ?_, ?_⟩
    · split
      · exact .inl rfl
      · exact .inr rfl
    · rw [isoYear, if_neg hout, List.cons_append]
  rcases lt_or_ge t 0 with hneg | hpos
  · have hlt : (CalendarDay.ofNumber (t / 86400000 % daysInEra).toNat).year < 400 :=
      CalendarDay.year_ofNumber_lt (by
        rw [show daysBeforeYear 400 = daysInEra from rfl]
        unfold daysInEra
        omega)
    have hera : t / 86400000 / daysInEra < 0 := by
      unfold daysInEra
      omega
    rw [toISOString, String.toList_ofList]
    exact hyear _ _ (by omega)
  · obtain ⟨n, rfl⟩ := Int.eq_ofNat_of_zero_le hpos
    rw [toISOString_natCast, String.toList_ofList]
    refine hyear _ _ fun hin => h ⟨hpos, ?_⟩
    have hnumber := CalendarDay.number_lt (CalendarDay.ofNumber (n / 86400000))
      (show _ < 10000 by omega)
    rw [CalendarDay.number_ofNumber] at hnumber
    generalize daysBeforeYear 10000 = bound at *
    omega

/-! ## Reading a date-time -/

/-- `\d{k}` : the number that is written by the next `k` digits. -/
def readNumber (k : ℕ) (s : List Char) : Option (ℕ × List Char) :=
  if matchesShape (List.replicate k isDigitChar) (s.take k) then some (digitsAt 0 k s, s.drop k)
  else none

def readMark (c : Char) : List Char → Option (List Char)
  | d :: s => if d = c then some s else none
  | [] => none

theorem readNumber_decimalDigits {k n : ℕ} (h : n < 10 ^ k) (s : List Char) :
    readNumber k (decimalDigits k n ++ s) = some (n, s) := by
  have hlen := ApplicationId.length_decimalDigits k n
  have hshape : matchesShape (List.replicate k isDigitChar) (decimalDigits k n) = true :=
    matchesShape_replicate hlen fun c hc => ApplicationId.isDigitChar_of_mem_decimalDigits hc
  rw [readNumber, List.take_append_of_le_length hlen.ge, List.take_of_length_le hlen.le,
    if_pos hshape, digitsAt_decimalDigits h, List.drop_append_of_le_length hlen.ge,
    List.drop_eq_nil_of_le hlen.le, List.nil_append]

@[simp] theorem readMark_cons (c : Char) (s : List Char) : readMark c (c :: s) = some s :=
  if_pos rfl

def CalendarDay.parse (year month day : ℕ) : Option CalendarDay :=
  if h : (1 ≤ month ∧ month ≤ 12) ∧ 1 ≤ day ∧ day ≤ daysInMonth year month then
    some ⟨year, month, day, h.1, h.2⟩
  else none

def ClockTime.parse (hour minute second millisecond : ℕ) : Option ClockTime :=
  if h : hour < 24 ∧ minute < 60 ∧ second < 60 ∧ millisecond < 1000 then
    some ⟨hour, minute, second, millisecond, h⟩
  else none

@[simp] theorem CalendarDay.parse_self (date : CalendarDay) :
    CalendarDay.parse date.year date.month date.day = some date :=
  dif_pos ⟨date.month_range, date.day_range⟩

@[simp] theorem ClockTime.parse_self (clock : ClockTime) :
    ClockTime.parse clock.hour clock.minute clock.second clock.millisecond = some clock :=
  dif_pos clock.range

/-- A date-time of RFC 3339 : a day, a time, and an offset in minutes from UTC. -/
structure IsoDatetime where
  date : CalendarDay
  clock : ClockTime
  offset : ℤ
  year_le : date.year ≤ 9999
  offset_range : -1440 < offset ∧ offset < 1440

/-- `\.\d+`, which may be left out. Digits after the millisecond are dropped. -/
def readFraction : List Char → Option (ℕ × List Char)
  | '.' :: s =>
    let digits := s.takeWhile isDigitChar
    if digits = [] then none
    else some (digitsAt 0 3 (digits ++ ['0', '0', '0']), s.dropWhile isDigitChar)
  | s => some (0, s)

/-- `:\d{2}(?:\.\d+)?`, which may be left out. -/
def readSeconds (s : List Char) : Option (ℕ × ℕ × List Char) :=
  match readMark ':' s with
  | none => some (0, 0, s)
  | some s => do
    let (second, s) ← readNumber 2 s
    let (millisecond, s) ← readFraction s
    return (second, millisecond, s)

/-- `\d{2}:\d{2}`, at the end : an hour and a minute. -/
def readMinutes (s : List Char) : Option ℕ := do
  let (hour, s) ← readNumber 2 s
  let s ← readMark ':' s
  let (minute, s) ← readNumber 2 s
  if hour < 24 ∧ minute < 60 ∧ s = [] then some (60 * hour + minute) else none

/-- `Z|[+-]\d{2}:\d{2}`, at the end. -/
def readOffset : List Char → Option ℤ
  | ['Z'] => some 0
  | '+' :: s => (readMinutes s).map fun n => (n : ℤ)
  | '-' :: s => (readMinutes s).map fun n => -(n : ℤ)
  | _ => none

/-- `\d{4}-\d{2}-\d{2}`. -/
def readDay (s : List Char) : Option (CalendarDay × List Char) := do
  let (year, s) ← readNumber 4 s
  let s ← readMark '-' s
  let (month, s) ← readNumber 2 s
  let s ← readMark '-' s
  let (day, s) ← readNumber 2 s
  let date ← CalendarDay.parse year month day
  return (date, s)

/-- `\d{2}:\d{2}` and the seconds. -/
def readClock (s : List Char) : Option (ClockTime × List Char) := do
  let (hour, s) ← readNumber 2 s
  let s ← readMark ':' s
  let (minute, s) ← readNumber 2 s
  let (second, millisecond, s) ← readSeconds s
  let clock ← ClockTime.parse hour minute second millisecond
  return (clock, s)

namespace IsoDatetime

def parse (date : CalendarDay) (clock : ClockTime) (offset : ℤ) : Option IsoDatetime :=
  if h : date.year ≤ 9999 ∧ -1440 < offset ∧ offset < 1440 then
    some ⟨date, clock, offset, h.1, h.2⟩
  else none

def read (s : String) : Option IsoDatetime := do
  let (date, s) ← readDay s.toList
  let s ← readMark 'T' s
  let (clock, s) ← readClock s
  let offset ← readOffset s
  parse date clock offset

/-- `new Date(value).getTime()`, from the start of the year 0. -/
def time (value : IsoDatetime) : ℤ :=
  86400000 * value.date.number + value.clock.millis - 60000 * value.offset

end IsoDatetime

theorem readSeconds_instant (clock : ClockTime) :
    readSeconds (':' :: (decimalDigits 2 clock.second ++ '.' ::
      (decimalDigits 3 clock.millisecond ++ ['Z']))) =
        some (clock.second, clock.millisecond, ['Z']) := by
  have hclock := clock.range
  have hdigits : ∀ c ∈ decimalDigits 3 clock.millisecond, isDigitChar c = true :=
    fun c hc => ApplicationId.isDigitChar_of_mem_decimalDigits hc
  have htake : (decimalDigits 3 clock.millisecond ++ ['Z']).takeWhile isDigitChar =
      decimalDigits 3 clock.millisecond := by
    rw [List.takeWhile_append_of_pos hdigits]
    simp [show isDigitChar 'Z' = false from by decide]
  have hdrop : (decimalDigits 3 clock.millisecond ++ ['Z']).dropWhile isDigitChar = ['Z'] := by
    rw [List.dropWhile_append_of_pos hdigits]
    simp [show isDigitChar 'Z' = false from by decide]
  have hne : decimalDigits 3 clock.millisecond ≠ [] := by
    rw [← List.length_pos_iff, ApplicationId.length_decimalDigits]
    omega
  rw [readSeconds, readMark_cons]
  simp only [readNumber_decimalDigits (show clock.second < 10 ^ 2 by omega), Option.bind_eq_bind,
    Option.bind_some, readFraction, htake, hdrop, if_neg hne,
    digitsAt_decimalDigits (show clock.millisecond < 10 ^ 3 by omega)]
  rfl

theorem readDay_isoText (date : CalendarDay) (clock : ClockTime) (h : date.year ≤ 9999) :
    readDay (isoText date clock) = some (date, (isoTail date clock).drop 6) := by
  have hmonth := date.month_range
  have hday := date.day_lt
  rw [readDay, isoText, isoTail, isoNumbers, readNumber_decimalDigits (by omega)]
  simp only [Option.bind_eq_bind, Option.bind_some, readMark_cons,
    readNumber_decimalDigits (show date.month < 10 ^ 2 by omega),
    readNumber_decimalDigits (show date.day < 10 ^ 2 by omega), CalendarDay.parse_self]
  rfl

theorem IsoDatetime.read_instant (date : CalendarDay) (clock : ClockTime) (h : date.year ≤ 9999) :
    read (Instant.at date clock h).val = some ⟨date, clock, 0, h, by decide⟩ := by
  have hclock := clock.range
  rw [read, Instant.at, String.toList_ofList, readDay_isoText date clock h]
  have htail : (isoTail date clock).drop 6 = 'T' :: (decimalDigits 2 clock.hour ++
      ':' :: (decimalDigits 2 clock.minute ++ ':' :: (decimalDigits 2 clock.second ++
        '.' :: (decimalDigits 3 clock.millisecond ++ ['Z'])))) := rfl
  simp only [Option.bind_eq_bind, Option.bind_some, htail, readMark_cons, readClock,
    readNumber_decimalDigits (show clock.hour < 10 ^ 2 by omega),
    readNumber_decimalDigits (show clock.minute < 10 ^ 2 by omega), readSeconds_instant,
    ClockTime.parse_self, readOffset]
  exact dif_pos ⟨h, by decide⟩

theorem IsoDatetime.read_isSome (t : Instant) : (read t.val).isSome = true := by
  obtain ⟨date, clock, h, rfl⟩ := t.exists_at
  rw [read_instant]
  rfl

/-- `(?:\.(\d{1,3}))?Z`, at the end : the digits of the fraction. -/
def instantFraction : List Char → Option (List Char)
  | ['Z'] => some []
  | ['.', a, 'Z'] => some [a]
  | ['.', a, b, 'Z'] => some [a, b]
  | ['.', a, b, c, 'Z'] => some [a, b, c]
  | _ => none

def parseInstant (value : String) : Option Instant := do
  let fraction ← instantFraction (value.toList.drop 19)
  let canonical := String.ofList (value.toList.take 19 ++
    '.' :: (fraction.rightpad 3 '0' ++ ['Z']))
  if h : isInstant canonical = true then some ⟨canonical, h⟩ else none

theorem matchesShape_drop :
    ∀ {ps : List (Char → Bool)} {cs : List Char} (n : ℕ), matchesShape ps cs = true →
      matchesShape (ps.drop n) (cs.drop n) = true
  | _, _, 0, h => h
  | [], [], _ + 1, _ => rfl
  | p :: ps, c :: cs, n + 1, h => by
    rw [matchesShape, Bool.and_eq_true] at h
    exact matchesShape_drop n h.2

theorem exists_fraction_of_isInstant {s : String} (h : isInstant s = true) :
    ∃ a b c, s.toList.drop 19 = ['.', a, b, c, 'Z'] := by
  have hshape := matchesShape_drop 19 (Bool.and_eq_true_iff.mp h).1
  rw [show instantShape.drop 19 = [isOneOf ['.'], isDigitChar, isDigitChar, isDigitChar,
    isOneOf ['Z']] from rfl] at hshape
  obtain ⟨point, s1, hs, hpoint, hshape⟩ := matchesShape_cons_iff.mp hshape
  obtain ⟨a, s2, rfl, -, hshape⟩ := matchesShape_cons_iff.mp hshape
  obtain ⟨b, s3, rfl, -, hshape⟩ := matchesShape_cons_iff.mp hshape
  obtain ⟨c, s4, rfl, -, hshape⟩ := matchesShape_cons_iff.mp hshape
  obtain ⟨z, s5, rfl, hz, hshape⟩ := matchesShape_cons_iff.mp hshape
  rw [matchesShape_nil_iff.mp hshape, List.mem_singleton.mp (List.contains_iff_mem.mp hpoint),
    List.mem_singleton.mp (List.contains_iff_mem.mp hz)] at hs
  exact ⟨a, b, c, hs⟩

theorem parseInstant_eq_self_iff {s : String} :
    (parseInstant s).map (·.val) = some s ↔ isInstant s = true := by
  refine ⟨fun h => ?_, fun h => ?_⟩
  · obtain ⟨t, -, rfl⟩ := Option.map_eq_some_iff.mp h
    exact t.property
  · obtain ⟨a, b, c, hend⟩ := exists_fraction_of_isInstant h
    have hcanonical : String.ofList (s.toList.take 19 ++ '.' ::
        (List.rightpad 3 '0' [a, b, c] ++ ['Z'])) = s := by
      rw [← String.toList_inj, String.toList_ofList]
      conv_rhs => rw [← List.take_append_drop 19 s.toList, hend]
      rfl
    rw [parseInstant, hend]
    simp only [instantFraction, Option.bind_eq_bind, Option.bind_some, hcanonical]
    rw [dif_pos h]
    rfl

end JooEvents
