import JooEvents.Intake.Model
import JooEvents.Kernel.CanonicalJson
import JooEvents.Kernel.Time
import Mathlib.Data.List.DropRight

/-!
# Answers as they are sent

An answer is sent as texts, numbers and choices, and `transientApplicationAnswerInputSchema`
takes it in a normal form. What was stored is read back by schemas of its own
(`organizerAnswerValueSchema`).

Of a text both ask that it be in normal form, and normalizing twice is normalizing once
(`normalizeAnswer_normalizeAnswer`). A date-time is written again in UTC, which keeps it
readable unless the offset takes it out of the years from 0 to 9999
(`IsoDatetime.inFourDigitYears_time_iff`).

Texts are well-formed Unicode here : a lone surrogate is refused wherever a text is answered.
-/

namespace JooEvents

variable {D : Type}

/-- What `new URL` reads of a text. -/
structure ParsedUrl where
  protocol : String
  username : String
  password : String

/-- What the schemas of answers take from the language and from the schema library. -/
structure AnswerHost (D : Type) extends Host D where
  /-- `new URL(value)`, which may throw. -/
  url : String → Option ParsedUrl
  /-- `z.iso.datetime({ offset: true })`. -/
  isoDatetime : String → Bool

/-- What is documented of them. Part of a normalized text is normalized; the date-times that are
accepted have a year of four digits and an offset, and those in canonical form are accepted. -/
structure AnswerHost.Documented (host : AnswerHost D) : Prop where
  nfc_infix : ∀ s t, t.toList <:+: (host.nfc s).toList → host.nfc t = t
  isoDatetime_read : ∀ s, host.isoDatetime s = true → (IsoDatetime.read s).isSome = true
  isoDatetime_instant : ∀ t : Instant, host.isoDatetime t.val = true

def normalizeAnswer (host : Host D) (multiline : Bool) (value : String) : String :=
  if multiline then normalizedMultiline host value
  else String.ofList ((normalizedMultiline host value).toList.filter (· ≠ '\n'))

/-- `forbidden`, in a text of one line or of several. -/
def isForbiddenChar (multiline : Bool) (c : Char) : Bool :=
  isControlChar c && !(multiline && c == '\n')

def acceptedAnswer (host : Host D) (maximum : ℕ) (multiline : Bool) (value : String) : Bool :=
  !(normalizedMultiline host value).toList.any (isForbiddenChar multiline) &&
    decide (textLength (normalizedMultiline host value) ≤ maximum)

/-- `z.string().refine(accepted).overwrite(normalize)`. -/
def overwritten (accepted : String → Bool) (normalize : String → String) (value : String) :
    Option String :=
  if accepted value then some (normalize value) else none

/-- `z.string().refine((value) => accepted(value) && normalize(value) === value)`. -/
def storedText (accepted : String → Bool) (normalize : String → String) (value : String) : Bool :=
  accepted value && decide (normalize value = value)

/-- `answerInput(maximum, multiline)`. -/
def answerInput (host : Host D) (maximum : ℕ) (multiline : Bool) : String → Option String :=
  overwritten (acceptedAnswer host maximum multiline) (normalizeAnswer host multiline)

def organizerTextAnswerValueSchema (host : Host D) : String → Bool :=
  storedText (acceptedAnswer host FormTextKind.text.maximumLength false)
    (normalizeAnswer host false)

def organizerLongTextAnswerValueSchema (host : Host D) : String → Bool :=
  storedText (acceptedAnswer host FormTextKind.textarea.maximumLength true)
    (normalizeAnswer host true)

/-- What follows the last `@`. -/
def emailDomain (s : List Char) : List Char := (s.reverse.takeWhile (· ≠ '@')).reverse

/-- What stands before the last `@`. -/
def emailLocal (s : List Char) : List Char := ((s.reverse.dropWhile (· ≠ '@')).drop 1).reverse

/-- The class `[A-Za-z0-9]`. -/
def isLetterOrDigitChar (c : Char) : Bool :=
  isDigitChar c || isLowerChar c || decide (65 ≤ c.val.toNat ∧ c.val.toNat ≤ 90)

/-- A label of a domain : `^[A-Za-z0-9](?:[A-Za-z0-9-]*[A-Za-z0-9])?$`, of at most 63. -/
def isEmailDomainLabel (label : List Char) : Bool :=
  decide (0 < label.length ∧ label.length ≤ 63) &&
    label.all (fun c => isLetterOrDigitChar c || c == '-') &&
    label.head?.any isLetterOrDigitChar && label.getLast?.any isLetterOrDigitChar

def unitCount (s : List Char) : ℕ := (s.flatMap Json.utf16Units).length

/-- What `acceptedEmail` asks of the normalized text. -/
def isApplicationEmail (s : List Char) : Bool :=
  decide ('@' ∈ s ∧ emailLocal s ≠ [] ∧ emailDomain s ≠ []) &&
    decide (unitCount (emailLocal s) ≤ 64 ∧ unitCount (emailDomain s) ≤ 255) &&
    !s.any isWhiteSpace &&
    decide ((emailLocal s).head? ≠ some '.' ∧ (emailLocal s).getLast? ≠ some '.') &&
    !decide (['.', '.'] <:+: emailLocal s) && decide ('.' ∈ emailDomain s) &&
    ((emailDomain s).splitOn '.').all isEmailDomainLabel

def acceptedEmail (host : Host D) (value : String) : Bool :=
  acceptedAnswer host FormTextKind.email.maximumLength false value &&
    isApplicationEmail (normalizeAnswer host false value).toList

def applicationEmailInputSchema (host : Host D) : String → Option String :=
  overwritten (acceptedEmail host) (normalizeAnswer host false)

def applicationEmailSchema (host : Host D) : String → Bool :=
  storedText (acceptedEmail host) (normalizeAnswer host false)

/-- What `acceptedUrl` asks of the normalized text. -/
def isWebUrl (host : AnswerHost D) (value : String) : Bool :=
  decide (value ≠ "") && (host.url value).any fun parsed =>
    decide (parsed.protocol = "https:" ∨ parsed.protocol = "http:") &&
      decide (parsed.username = "" ∧ parsed.password = "")

def acceptedUrl (host : AnswerHost D) (value : String) : Bool :=
  acceptedAnswer host.toHost FormTextKind.url.maximumLength false value &&
    isWebUrl host (normalizeAnswer host.toHost false value)

def applicationUrlInputSchema (host : AnswerHost D) : String → Option String :=
  overwritten (acceptedUrl host) (normalizeAnswer host.toHost false)

def applicationUrlSchema (host : AnswerHost D) : String → Bool :=
  storedText (acceptedUrl host) (normalizeAnswer host.toHost false)

def applicationPhoneInputSchema (host : Host D) (value : String) : Option String :=
  (answerInput host FormTextKind.phone.maximumLength false value).filter fun value => value ≠ ""

def applicationPhoneSchema (host : Host D) (value : String) : Bool :=
  acceptedAnswer host FormTextKind.phone.maximumLength false value &&
    decide (normalizeAnswer host false value = value) && decide (value ≠ "")

def applicationNumberSchema : JsNumber → Bool
  | .finite _ => true
  | .negativeZero | .infinity _ | .nan => false

/-- The shape `dddd-dd-dd`. -/
def dateShape : List (Char → Bool) :=
  List.replicate 4 isDigitChar ++ [isOneOf ['-']] ++ List.replicate 2 isDigitChar ++
    [isOneOf ['-']] ++ List.replicate 2 isDigitChar

/-- `acceptedDate`. `Date.UTC` takes the years before 100 to be years of the last century, so
that none of them comes back. -/
def acceptedDate (value : String) : Bool :=
  matchesShape dateShape value.toList &&
    decide (100 ≤ digitsAt 0 4 value.toList) &&
    (CalendarDay.parse (digitsAt 0 4 value.toList) (digitsAt 5 2 value.toList)
      (digitsAt 8 2 value.toList)).isSome

def applicationDateSchema (value : String) : Bool := acceptedDate value

def applicationDatetimeInputSchema (host : AnswerHost D) (value : String) : Option String :=
  if host.isoDatetime value then (IsoDatetime.read value).map fun read => toISOString read.time
  else none

def applicationDatetimeSchema (value : String) : Bool :=
  decide ((parseInstant value).map (·.val) = some value)

/-- What an answer says, as it is sent. It is sent with identities of type `Id`. -/
inductive AnswerInputContent (Id : Type) where
  | line (kind : FormTextKind) (value : String)
  | number (value : JsNumber)
  | date (value : String)
  | datetime (value : String)
  | select (choiceId : Id)
  | multiselect (choiceIds : List Id)
  | checkbox (checked : Bool)
  deriving DecidableEq

/-- `TransientApplicationAnswerInput`. -/
structure ApplicationAnswerInput (Id : Type) where
  fieldId : Id
  content : AnswerInputContent Id
  deriving DecidableEq

def intakeIdInputSchema (value : String) : Option ApplicationId := parseApplicationId value

def lineInputSchema (host : AnswerHost D) : FormTextKind → String → Option String
  | .text => answerInput host.toHost FormTextKind.text.maximumLength false
  | .textarea => answerInput host.toHost FormTextKind.textarea.maximumLength true
  | .email => applicationEmailInputSchema host.toHost
  | .url => applicationUrlInputSchema host
  | .phone => applicationPhoneInputSchema host.toHost

def lineSchema (host : AnswerHost D) : FormTextKind → String → Bool
  | .text => organizerTextAnswerValueSchema host.toHost
  | .textarea => organizerLongTextAnswerValueSchema host.toHost
  | .email => applicationEmailSchema host.toHost
  | .url => applicationUrlSchema host
  | .phone => applicationPhoneSchema host.toHost

def answerContentInputSchema (host : AnswerHost D) :
    AnswerInputContent String → Option (AnswerInputContent ApplicationId)
  | .line kind value => (lineInputSchema host kind value).map (.line kind)
  | .number value => if applicationNumberSchema value then some (.number value) else none
  | .date value => if applicationDateSchema value then some (.date value) else none
  | .datetime value => (applicationDatetimeInputSchema host value).map .datetime
  | .select choiceId => (intakeIdInputSchema choiceId).map .select
  | .multiselect choiceIds =>
    if choiceIds.length ≤ formMultiselectMaxSelections then
      (choiceIds.mapM intakeIdInputSchema).map .multiselect
    else none
  | .checkbox checked => some (.checkbox checked)

def transientApplicationAnswerInputSchema (host : AnswerHost D)
    (answer : ApplicationAnswerInput String) : Option (ApplicationAnswerInput ApplicationId) := do
  let fieldId ← intakeIdInputSchema answer.fieldId
  let content ← answerContentInputSchema host answer.content
  return ⟨fieldId, content⟩

/-- What an answer says, with its identities as they are sent. -/
def AnswerInputContent.sent : AnswerInputContent ApplicationId → AnswerInputContent String
  | .line kind value => .line kind value
  | .number value => .number value
  | .date value => .date value
  | .datetime value => .datetime value
  | .select choiceId => .select choiceId.val
  | .multiselect choiceIds => .multiselect (choiceIds.map (·.val))
  | .checkbox checked => .checkbox checked

def ApplicationAnswerInput.sent (answer : ApplicationAnswerInput ApplicationId) :
    ApplicationAnswerInput String :=
  ⟨answer.fieldId.val, answer.content.sent⟩

/-- What a stored answer says : the values of `organizerSubmissionAnswerSchema`, and
`applicationEmailSchema`. Identities are canonical by their type. -/
def organizerAnswerValueSchema (host : AnswerHost D) : AnswerInputContent ApplicationId → Bool
  | .line kind value => lineSchema host kind value
  | .number value => applicationNumberSchema value
  | .date value => applicationDateSchema value
  | .datetime value => applicationDatetimeSchema value
  | .multiselect choiceIds => decide (choiceIds.length ≤ formMultiselectMaxSelections)
  | .select _ | .checkbox _ => true

/-! ## Normal form -/

theorem trimChars_eq (s : List Char) :
    trimChars s = (s.dropWhile isWhiteSpace).rdropWhile isWhiteSpace := rfl

theorem trimChars_trimChars (s : List Char) : trimChars (trimChars s) = trimChars s := by
  have hright : trimChars s <+: s.dropWhile isWhiteSpace := List.rdropWhile_prefix _ _
  have hleft : (trimChars s).dropWhile isWhiteSpace = trimChars s := by
    refine List.dropWhile_eq_self_iff.mpr fun hlen => ?_
    have hself := List.dropWhile_eq_self_iff.mp (List.dropWhile_idempotent isWhiteSpace s)
    have hget := hself (hlen.trans_le hright.length_le)
    rwa [hright.getElem hlen]
  rw [trimChars_eq (trimChars s), hleft, trimChars_eq, List.rdropWhile_idempotent]

theorem trimChars_infix (s : List Char) : trimChars s <:+: s := by
  have hleft : s.dropWhile isWhiteSpace <:+ s := List.dropWhile_suffix _
  have hright : trimChars s <+: s.dropWhile isWhiteSpace := List.rdropWhile_prefix _ _
  exact hright.isInfix.trans hleft.isInfix

theorem unixLines_of_notMem : ∀ {s : List Char}, '\r' ∉ s → unixLines s = s
  | [], _ => rfl
  | c :: s, h => by
    rw [List.mem_cons, not_or] at h
    rw [unixLines, unixLines_of_notMem h.2]
    · rintro t rfl
      exact absurd rfl h.1
    · rintro rfl
      exact absurd rfl h.1

section

variable {host : Host D} {maximum : ℕ} {multiline : Bool} {value : String}

theorem not_mem_of_accepted (h : acceptedAnswer host maximum multiline value = true) {c : Char}
    (hc : isForbiddenChar multiline c = true) : c ∉ (normalizedMultiline host value).toList := by
  simp only [acceptedAnswer, Bool.and_eq_true, Bool.not_eq_true', List.any_eq_false] at h
  exact fun hmem => h.1 c hmem hc

theorem normalizeAnswer_of_accepted (h : acceptedAnswer host maximum multiline value = true) :
    normalizeAnswer host multiline value = normalizedMultiline host value := by
  cases multiline with
  | true => rfl
  | false =>
    have hlines := not_mem_of_accepted h (show isForbiddenChar false '\n' = true by decide)
    rw [normalizeAnswer, if_neg (by decide), List.filter_eq_self.mpr, String.ofList_toList]
    rintro c hc
    exact decide_eq_true fun heq => hlines (heq ▸ hc)

theorem normalizedMultiline_normalizedMultiline
    (hnfc : ∀ s t, t.toList <:+: (host.nfc s).toList → host.nfc t = t)
    (h : acceptedAnswer host maximum multiline value = true) :
    normalizedMultiline host (normalizedMultiline host value) = normalizedMultiline host value := by
  have hreturns := not_mem_of_accepted h (show isForbiddenChar multiline '\r' = true by
    cases multiline <;> decide)
  have hpart : host.nfc (normalizedMultiline host value) = normalizedMultiline host value := by
    refine hnfc (String.ofList (unixLines value.toList)) _ ?_
    rw [normalizedMultiline, trimText, String.toList_ofList]
    exact trimChars_infix _
  rw [normalizedMultiline, unixLines_of_notMem hreturns, String.ofList_toList, hpart]
  rw [normalizedMultiline, trimText, trimText, String.toList_ofList, trimChars_trimChars]

theorem acceptedAnswer_congr {other : String}
    (h : normalizedMultiline host other = normalizedMultiline host value) :
    acceptedAnswer host maximum multiline other = acceptedAnswer host maximum multiline value := by
  rw [acceptedAnswer, acceptedAnswer, h]

theorem normalizeAnswer_congr {other : String}
    (h : normalizedMultiline host other = normalizedMultiline host value) :
    normalizeAnswer host multiline other = normalizeAnswer host multiline value := by
  rw [normalizeAnswer, normalizeAnswer, h]

end

/-- The normal form of what is accepted is accepted, and is its own normal form. -/
def Settles (accepted : String → Bool) (normalize : String → String) : Prop :=
  ∀ value, accepted value = true →
    accepted (normalize value) = true ∧ normalize (normalize value) = normalize value

theorem Settles.stored {accepted : String → Bool} {normalize : String → String}
    (h : Settles accepted normalize) {value output : String}
    (hvalue : overwritten accepted normalize value = some output) :
    overwritten accepted normalize output = some output ∧
      storedText accepted normalize output = true := by
  unfold overwritten at hvalue
  split at hvalue
  · next haccepted =>
    obtain rfl := Option.some.inj hvalue
    obtain ⟨hnormal, hidem⟩ := h value haccepted
    exact ⟨by rw [overwritten, if_pos hnormal, hidem], by
      rw [storedText, hnormal, hidem, decide_eq_true rfl, Bool.and_true]⟩
  · cases hvalue

theorem settles_of_normal {host : Host D}
    (hnfc : ∀ s t, t.toList <:+: (host.nfc s).toList → host.nfc t = t) (maximum : ℕ)
    (multiline : Bool) (p : String → Bool) :
    Settles (fun value => acceptedAnswer host maximum multiline value &&
      p (normalizeAnswer host multiline value)) (normalizeAnswer host multiline) := by
  intro value h
  obtain ⟨haccepted, hp⟩ := Bool.and_eq_true_iff.mp h
  have hnormal := normalizeAnswer_of_accepted haccepted
  have hself := normalizedMultiline_normalizedMultiline hnfc haccepted
  have hidem : normalizeAnswer host multiline (normalizedMultiline host value) =
      normalizeAnswer host multiline value := normalizeAnswer_congr hself
  rw [hnormal]
  refine ⟨Bool.and_eq_true_iff.mpr ⟨(acceptedAnswer_congr hself).trans haccepted, ?_⟩,
    hidem.trans hnormal⟩
  rw [hidem]
  exact hp

theorem settles_acceptedAnswer {host : Host D}
    (hnfc : ∀ s t, t.toList <:+: (host.nfc s).toList → host.nfc t = t) (maximum : ℕ)
    (multiline : Bool) :
    Settles (acceptedAnswer host maximum multiline) (normalizeAnswer host multiline) := by
  have h := settles_of_normal hnfc maximum multiline fun _ => true
  simpa only [Bool.and_true] using h

theorem lineInputSchema_stored {host : AnswerHost D} (hdoc : host.Documented)
    {kind : FormTextKind} {value output : String}
    (h : lineInputSchema host kind value = some output) :
    lineInputSchema host kind output = some output ∧ lineSchema host kind output = true := by
  have hnfc := hdoc.nfc_infix
  cases kind with
  | text =>
    simp only [lineInputSchema, answerInput, lineSchema, organizerTextAnswerValueSchema] at h ⊢
    exact (settles_acceptedAnswer hnfc _ _).stored h
  | textarea =>
    simp only [lineInputSchema, answerInput, lineSchema, organizerLongTextAnswerValueSchema] at h ⊢
    exact (settles_acceptedAnswer hnfc _ _).stored h
  | email =>
    simp only [lineInputSchema, applicationEmailInputSchema, lineSchema,
      applicationEmailSchema] at h ⊢
    exact (settles_of_normal hnfc _ _ fun value => isApplicationEmail value.toList).stored h
  | url =>
    simp only [lineInputSchema, applicationUrlInputSchema, lineSchema,
      applicationUrlSchema] at h ⊢
    exact (settles_of_normal hnfc _ _ (isWebUrl host)).stored h
  | phone =>
    simp only [lineInputSchema, applicationPhoneInputSchema, answerInput, lineSchema,
      applicationPhoneSchema] at h ⊢
    obtain ⟨hvalue, hne⟩ := Option.filter_eq_some_iff.mp h
    obtain ⟨hagain, hstored⟩ := (settles_acceptedAnswer hnfc _ _).stored hvalue
    refine ⟨Option.filter_eq_some_iff.mpr ⟨hagain, hne⟩, ?_⟩
    rw [storedText] at hstored
    exact Bool.and_eq_true_iff.mpr ⟨hstored, hne⟩

theorem lowerHexChar_of_isHexChar {c : Char} (h : isHexChar c = true) : lowerHexChar c = c := by
  simp only [isHexChar, isDigitChar, Bool.or_eq_true, decide_eq_true_eq] at h
  rw [lowerHexChar, if_neg (by omega)]

theorem parseApplicationId_of_canonical (id : ApplicationId) :
    parseApplicationId id.val = some id := by
  have hlower : ∀ c ∈ id.val.toList, lowerHexChar c = c :=
    id.forall_char rfl fun _ => lowerHexChar_of_isHexChar
  have hmap : id.val.toList.map lowerHexChar = id.val.toList :=
    (List.map_congr_left hlower).trans (List.map_id' _)
  simp only [parseApplicationId, hmap, String.ofList_toList]
  exact dif_pos id.property

theorem mapM_intakeIdInputSchema (ids : List ApplicationId) :
    (ids.map (·.val)).mapM intakeIdInputSchema = some ids := by
  induction ids with
  | nil => rfl
  | cons id ids ih =>
    rw [List.map_cons, List.mapM_cons, ih, intakeIdInputSchema, parseApplicationId_of_canonical]
    rfl

theorem length_of_mapM_intakeIdInputSchema {values : List String} :
    ∀ {ids : List ApplicationId}, values.mapM intakeIdInputSchema = some ids →
      ids.length = values.length := by
  induction values with
  | nil =>
    intro ids h
    obtain rfl := Option.some.inj h
    rfl
  | cons value values ih =>
    intro ids h
    simp only [List.mapM_cons, Option.bind_eq_bind, Option.bind_eq_some_iff, Option.pure_def,
      Option.some.injEq] at h
    obtain ⟨id, -, rest, hrest, rfl⟩ := h
    rw [List.length_cons, List.length_cons, ih hrest]

namespace CalendarDay

def first : CalendarDay := ⟨0, 1, 1, by decide, by decide⟩

def last : CalendarDay := ⟨9999, 12, 31, by decide, by decide⟩

theorem number_pos {date : CalendarDay} (h : date ≠ first) : 0 < date.number :=
  Nat.pos_of_ne_zero fun hzero => h (number_injective (hzero.trans (by rfl)))

theorem number_last : last.number + 1 = daysBeforeYear 10000 := rfl

theorem number_lt_last {date : CalendarDay} (hyear : date.year ≤ 9999) (h : date ≠ last) :
    date.number + 1 < daysBeforeYear 10000 := by
  have hlt := date.number_lt (show date.year < 10000 by omega)
  have hne : date.number ≠ last.number := fun heq => h (number_injective heq)
  have hlast := number_last
  omega

end CalendarDay

/-- The offset takes a date-time out of the years from 0 to 9999 : on the first day of them a
time that is earlier than the offset, or on the last day one that is not before midnight in UTC. -/
def IsoDatetime.LeavesYears (value : IsoDatetime) : Prop :=
  value.date = CalendarDay.first ∧
      60 * value.clock.hour + value.clock.minute < value.offset ∨
    value.date = CalendarDay.last ∧
      1440 ≤ 60 * value.clock.hour + value.clock.minute - value.offset

instance (value : IsoDatetime) : Decidable value.LeavesYears :=
  inferInstanceAs (Decidable (_ ∨ _))

theorem IsoDatetime.inFourDigitYears_time_iff (value : IsoDatetime) :
    InFourDigitYears value.time ↔ ¬ value.LeavesYears := by
  have hoffset := value.offset_range
  have hclock := value.clock.range
  have hlast := CalendarDay.number_last
  have hmillis : value.clock.millis = 60000 * (60 * value.clock.hour + value.clock.minute) +
      (1000 * value.clock.second + value.clock.millisecond) := by
    unfold ClockTime.millis
    omega
  rw [InFourDigitYears, time, LeavesYears, hmillis]
  have hbefore : value.date ≠ CalendarDay.last →
      value.date.number + 1 < daysBeforeYear 10000 := CalendarDay.number_lt_last value.year_le
  generalize daysBeforeYear 10000 = bound at *
  by_cases hfirst : value.date = CalendarDay.first
  · have hne : CalendarDay.first ≠ CalendarDay.last := by decide
    have hzero : CalendarDay.first.number = 0 := rfl
    have hbound : CalendarDay.last.number = 3652424 := rfl
    simp only [hfirst, hne, true_and, false_and, or_false]
    omega
  · have hpos := CalendarDay.number_pos hfirst
    by_cases hend : value.date = CalendarDay.last
    · have hne : CalendarDay.last ≠ CalendarDay.first := by decide
      rw [hend] at hpos
      simp only [hend, hne, true_and, false_and, false_or]
      omega
    · have hlt := hbefore hend
      simp only [hfirst, hend, false_and, or_false, not_false_eq_true, iff_true]
      omega

/-! ## Reading back -/

/-- The offset of a date-time keeps it in the years from 0 to 9999. -/
def AnswerInputContent.StaysInYears : AnswerInputContent String → Prop
  | .datetime value => ∀ read ∈ IsoDatetime.read value, ¬ read.LeavesYears
  | .line _ _ | .number _ | .date _ | .select _ | .multiselect _ | .checkbox _ => True

theorem applicationDatetimeSchema_eq (value : String) :
    applicationDatetimeSchema value = isInstant value :=
  Bool.eq_iff_iff.mpr (by rw [applicationDatetimeSchema, decide_eq_true_eq, parseInstant_eq_self_iff])

theorem applicationDatetimeInputSchema_stored {host : AnswerHost D} (hdoc : host.Documented)
    {value output : String} (h : applicationDatetimeInputSchema host value = some output) :
    (applicationDatetimeInputSchema host output = some output ∧
      applicationDatetimeSchema output = true) ↔
        AnswerInputContent.StaysInYears (.datetime value) := by
  unfold applicationDatetimeInputSchema at h
  split at h
  · obtain ⟨read, hread, rfl⟩ := Option.map_eq_some_iff.mp h
    have hstays : AnswerInputContent.StaysInYears (.datetime value) ↔ InFourDigitYears read.time := by
      rw [IsoDatetime.inFourDigitYears_time_iff, AnswerInputContent.StaysInYears, hread]
      simp
    rw [hstays, applicationDatetimeSchema_eq]
    refine ⟨fun hstored => ?_, fun hin => ?_⟩
    · by_contra hout
      obtain ⟨c, s, hc, hs⟩ := head_toISOString hout
      obtain ⟨-, hagain⟩ := hstored
      have hshape := (Bool.and_eq_true_iff.mp hagain).1
      rw [hs] at hshape
      rcases hc with rfl | rfl <;> cases hshape
    · obtain ⟨date, clock, hyear, htext, htime⟩ := toISOString_of_inFourDigitYears hin
      rw [htext]
      refine ⟨?_, (Instant.at date clock hyear).property⟩
      rw [applicationDatetimeInputSchema, if_pos (hdoc.isoDatetime_instant _),
        IsoDatetime.read_instant, Option.map_some, ← htext, IsoDatetime.time]
      simp only [Int.mul_zero, Int.sub_zero, htime]
  · cases h

theorem answerContentInputSchema_stored {host : AnswerHost D} (hdoc : host.Documented)
    {content : AnswerInputContent String} {output : AnswerInputContent ApplicationId}
    (h : answerContentInputSchema host content = some output) :
    (answerContentInputSchema host output.sent = some output ∧
      organizerAnswerValueSchema host output = true) ↔ content.StaysInYears := by
  cases content with
  | line kind value =>
    obtain ⟨text, htext, rfl⟩ := Option.map_eq_some_iff.mp h
    obtain ⟨hagain, hstored⟩ := lineInputSchema_stored hdoc htext
    simp [AnswerInputContent.sent, answerContentInputSchema, hagain, organizerAnswerValueSchema,
      hstored, AnswerInputContent.StaysInYears]
  | number value =>
    obtain ⟨hvalue, ⟨⟩⟩ := Option.ite_none_right_eq_some.mp h
    simp [AnswerInputContent.sent, answerContentInputSchema, organizerAnswerValueSchema, hvalue,
      AnswerInputContent.StaysInYears]
  | date value =>
    obtain ⟨hvalue, ⟨⟩⟩ := Option.ite_none_right_eq_some.mp h
    simp [AnswerInputContent.sent, answerContentInputSchema, organizerAnswerValueSchema, hvalue,
      AnswerInputContent.StaysInYears]
  | datetime value =>
    obtain ⟨text, htext, rfl⟩ := Option.map_eq_some_iff.mp h
    rw [← applicationDatetimeInputSchema_stored hdoc htext]
    simp [AnswerInputContent.sent, answerContentInputSchema, organizerAnswerValueSchema]
  | select choiceId =>
    obtain ⟨id, hid, rfl⟩ := Option.map_eq_some_iff.mp h
    have hagain : intakeIdInputSchema id.val = some id := parseApplicationId_of_canonical id
    simp [AnswerInputContent.sent, answerContentInputSchema, hagain, organizerAnswerValueSchema,
      AnswerInputContent.StaysInYears]
  | multiselect choiceIds =>
    obtain ⟨hlength, h⟩ := Option.ite_none_right_eq_some.mp h
    obtain ⟨ids, hids, rfl⟩ := Option.map_eq_some_iff.mp h
    rw [← length_of_mapM_intakeIdInputSchema hids] at hlength
    have hagain : answerContentInputSchema host (AnswerInputContent.multiselect ids).sent =
        some (.multiselect ids) := by
      rw [AnswerInputContent.sent, answerContentInputSchema, List.length_map, if_pos hlength,
        mapM_intakeIdInputSchema, Option.map_some]
    simp [hagain, organizerAnswerValueSchema, hlength, AnswerInputContent.StaysInYears]
  | checkbox checked =>
    obtain rfl := Option.some.inj h
    simp [AnswerInputContent.sent, answerContentInputSchema, organizerAnswerValueSchema,
      AnswerInputContent.StaysInYears]

/-- An accepted answer is accepted again as it is, and read back, exactly unless it is a
date-time that its offset takes out of the years from 0 to 9999. -/
theorem transientApplicationAnswer_readable_iff {host : AnswerHost D} (hdoc : host.Documented)
    {answer : ApplicationAnswerInput String} {output : ApplicationAnswerInput ApplicationId}
    (h : transientApplicationAnswerInputSchema host answer = some output) :
    (transientApplicationAnswerInputSchema host output.sent = some output ∧
      organizerAnswerValueSchema host output.content = true) ↔ answer.content.StaysInYears := by
  simp only [transientApplicationAnswerInputSchema, Option.bind_eq_bind, Option.bind_eq_some_iff,
    Option.pure_def, Option.some.injEq] at h
  obtain ⟨fieldId, -, content, hcontent, rfl⟩ := h
  rw [← answerContentInputSchema_stored hdoc hcontent]
  simp [transientApplicationAnswerInputSchema, ApplicationAnswerInput.sent, intakeIdInputSchema,
    parseApplicationId_of_canonical, Option.bind_eq_some_iff]

namespace AnswerInputExample

/-- A language of texts that are normalized as they are, without URLs. -/
def host : AnswerHost Unit where
  nfc := id
  nfc_idem _ := rfl
  nfc_ascii _ _ := rfl
  sha256 _ := ()
  url _ := none
  isoDatetime value := (IsoDatetime.read value).isSome

theorem documented : host.Documented where
  nfc_infix _ _ _ := rfl
  isoDatetime_read _ h := h
  isoDatetime_instant t := IsoDatetime.read_isSome t

/-- The answer to a field that asks for a date-time. -/
def answer (value : String) : ApplicationAnswerInput ApplicationId :=
  ⟨ApplicationId.ofNat 1, .datetime value⟩

theorem accepted_noon :
    transientApplicationAnswerInputSchema host (answer "2025-06-01T12:00:00+02:00").sent =
      some (answer "2025-06-01T10:00:00.000Z") := by
  decide +kernel

theorem accepted_first :
    transientApplicationAnswerInputSchema host (answer "0000-01-01T00:00:00+05:00").sent =
      some (answer "-000001-12-31T19:00:00.000Z") := by
  decide +kernel

end AnswerInputExample

open AnswerInputExample in
theorem transientApplicationAnswer_readable_iff_noon :
    transientApplicationAnswerInputSchema host (answer "2025-06-01T10:00:00.000Z").sent =
        some (answer "2025-06-01T10:00:00.000Z") ∧
      organizerAnswerValueSchema host (answer "2025-06-01T10:00:00.000Z").content = true :=
  (transientApplicationAnswer_readable_iff documented accepted_noon).mpr (by
    have hleaves : ∀ read ∈ IsoDatetime.read "2025-06-01T12:00:00+02:00", ¬ read.LeavesYears := by
      decide +kernel
    exact hleaves)

open AnswerInputExample in
/-- A date-time of the year 0 that is in the year before it in UTC is accepted, and neither
accepted again nor read back. -/
theorem transientApplicationAnswer_lost :
    host.Documented ∧
      transientApplicationAnswerInputSchema host (answer "0000-01-01T00:00:00+05:00").sent =
        some (answer "-000001-12-31T19:00:00.000Z") ∧
      transientApplicationAnswerInputSchema host (answer "-000001-12-31T19:00:00.000Z").sent =
        none ∧
      organizerAnswerValueSchema host (answer "-000001-12-31T19:00:00.000Z").content = false :=
  ⟨documented, accepted_first, by decide +kernel, by decide +kernel⟩

end JooEvents
