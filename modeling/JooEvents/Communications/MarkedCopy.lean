import JooEvents.Communications.Resend

/-!
# Marked copies

When a reviewed envelope can be resent as a marked copy. The subject is cut between units
and canonical JSON takes whole characters only; the note adds bytes to bodies that are
bounded; and the note follows the first `<body…>` of the markup, which can end in an
attribute of another tag. `Resendable` is what it takes (`marked_resend_iff`).
-/

namespace JooEvents

open Fallible

/-! ## Surrogates -/

def IsScalar (units : List ℕ) : Prop := ∃ s, scalarString units = some s

/-- The text does not end with the first half of a pair. -/
def EndsWhole (units : List ℕ) : Prop := ∀ u ∈ units.getLast?, isHighSurrogate u = false

instance (units : List ℕ) : Decidable (EndsWhole units) :=
  inferInstanceAs (Decidable (∀ u ∈ units.getLast?, isHighSurrogate u = false))

theorem EndsWhole.append {as bs : List ℕ} (has : EndsWhole as) (hbs : EndsWhole bs) :
    EndsWhole (as ++ bs) := by
  intro u hu
  rw [List.getLast?_append] at hu
  rcases Option.or_eq_some_iff.mp hu with h | ⟨-, h⟩
  · exact hbs u h
  · exact has u h

theorem isScalar_iff {units : List ℕ} : IsScalar units ↔ (unicodeScalars units).isSome := by
  simp [IsScalar, scalarString, Option.isSome_iff_exists]

theorem utf8Length_append {as bs : List ℕ} (h : EndsWhole as) :
    utf8Length (as ++ bs) = utf8Length as + utf8Length bs := by
  fun_induction utf8Length as with
  | case1 => simp
  | case2 u =>
    have hu : isHighSurrogate u = false := h u rfl
    cases bs with
    | nil => simp [utf8Length]
    | cons b bs => simp [utf8Length, hu]
  | case3 u next rest hpair ih =>
    rw [List.cons_append, List.cons_append, utf8Length, if_pos hpair, ih, Nat.add_assoc]
    intro v hv
    refine h v ?_
    cases rest with
    | nil => cases hv
    | cons w rest => simpa [List.getLast?_cons_cons] using hv
  | case4 u next rest hpair ih =>
    rw [List.cons_append, List.cons_append, utf8Length, if_neg hpair]
    rw [List.cons_append] at ih
    rw [ih, Nat.add_assoc]
    intro v hv
    exact h v (by rwa [List.getLast?_cons_cons])

theorem isScalar_append {as bs : List ℕ} (h : EndsWhole as) :
    IsScalar (as ++ bs) ↔ IsScalar as ∧ IsScalar bs := by
  simp only [isScalar_iff]
  fun_induction unicodeScalars as with
  | case1 => simp
  | case2 u hu => exact absurd (h u rfl) (by simp [isHighSurrogate, hu])
  | case3 u hu next rest hnext ih =>
    rw [List.cons_append, List.cons_append, unicodeScalars, if_pos hu, if_pos hnext,
      Option.isSome_map, Option.isSome_map, ih]
    intro v hv
    refine h v ?_
    cases rest with
    | nil => cases hv
    | cons w rest => simpa [List.getLast?_cons_cons] using hv
  | case4 u hu next rest hnext =>
    rw [List.cons_append, List.cons_append, unicodeScalars, if_pos hu, if_neg hnext]
    simp
  | case5 u rest hu hlow =>
    rw [List.cons_append, unicodeScalars.eq_def]
    dsimp only
    rw [if_neg hu, if_pos hlow]
    simp
  | case6 u rest hu hlow ih =>
    rw [List.cons_append, unicodeScalars.eq_def]
    dsimp only
    rw [if_neg hu, if_neg hlow, Option.isSome_map, Option.isSome_map, ih]
    intro v hv
    refine h v ?_
    cases rest with
    | nil => cases hv
    | cons w rest => rwa [List.getLast?_cons_cons]

theorem IsScalar.endsWhole {units : List ℕ} (h : IsScalar units) : EndsWhole units := by
  rw [isScalar_iff] at h
  fun_induction unicodeScalars units with
  | case1 => simp [EndsWhole]
  | case2 u hu => cases h
  | case3 u hu next rest hnext ih =>
    intro v hv
    cases rest with
    | nil =>
      rw [List.getLast?_cons_cons, List.getLast?_singleton, Option.mem_some_iff] at hv
      rw [← hv, isHighSurrogate, decide_eq_false_iff_not]
      omega
    | cons w rest =>
      rw [Option.isSome_map] at h
      exact ih h v (by simpa [List.getLast?_cons_cons] using hv)
  | case4 u hu next rest hnext => cases h
  | case5 u rest hu hlow => cases h
  | case6 u rest hu hlow ih =>
    intro v hv
    cases rest with
    | nil =>
      rw [List.getLast?_singleton, Option.mem_some_iff] at hv
      rw [← hv, isHighSurrogate, decide_eq_false_iff_not]
      exact hu
    | cons w rest =>
      rw [Option.isSome_map] at h
      exact ih h v (by rwa [List.getLast?_cons_cons] at hv)

theorem isScalar_codeUnits (s : String) : IsScalar (codeUnits s) := ⟨s, scalarString_codeUnits s⟩

theorem isScalar_take_iff {units : List ℕ} (h : IsScalar units) (n : ℕ) :
    IsScalar (units.take n) ↔ EndsWhole (units.take n) := by
  refine ⟨IsScalar.endsWhole, fun hends => ?_⟩
  rw [← List.take_append_drop n units] at h
  exact ((isScalar_append hends).mp h).1

/-! ## Canonical forms -/

section Forms

variable {nfc : String → String}

def HasForm (nfc : String → String) (v : JsValue) : Prop := ∃ c, Canonical nfc v c

theorem canonical_object {ps : List (List ℕ × Option JsValue)} {c : JsonValue}
    (h : Canonical nfc (.object true false ps) c) :
    ∃ es, CanonicalEntries nfc ps es ∧ (es.map Prod.fst).Nodup ∧
      c = .obj (canonicalMembers es) := by
  cases h with
  | object hentries hnd => exact ⟨_, hentries, hnd, rfl⟩

theorem canonical_string {units : List ℕ} {s : String} {c : JsonValue}
    (h : Canonical nfc (.string units) c) (hs : scalarString units = some s) :
    c = .str (nfc s) := by
  cases h with
  | string hs' =>
    rw [hs, Option.some.injEq] at hs'
    rw [hs']

theorem hasForm_object_iff {ps : List (List ℕ × Option JsValue)} :
    HasForm nfc (.object true false ps) ↔
      ∃ es, List.Forall₂ (EntryForm nfc) ps es ∧ (es.map Prod.fst).Nodup := by
  constructor
  · rintro ⟨c, h⟩
    obtain ⟨es, hentries, hnd, -⟩ := canonical_object h
    exact ⟨es, canonicalEntries_iff.mp hentries, hnd⟩
  · rintro ⟨es, hentries, hnd⟩
    exact ⟨_, .object (canonicalEntries_iff.mpr hentries) hnd⟩

theorem HasForm.replace {ps qs : List (List ℕ × Option JsValue)}
    (h : HasForm nfc (.object true false ps))
    (hqs : List.Forall₂ (fun p q => p.1 = q.1 ∧ ∀ v, p.2 = some v → HasForm nfc v →
      ∃ w, q.2 = some w ∧ HasForm nfc w) ps qs) : HasForm nfc (.object true false qs) := by
  rw [hasForm_object_iff] at h ⊢
  obtain ⟨es, hentries, hnd⟩ := h
  have hsame : ∃ fs, List.Forall₂ (EntryForm nfc) qs fs ∧ fs.map Prod.fst = es.map Prod.fst := by
    clear hnd
    induction hqs generalizing es with
    | nil =>
      cases hentries
      exact ⟨[], .nil, rfl⟩
    | cons hpq _ ih =>
      cases hentries with
      | cons hentry hrest =>
        obtain ⟨s, v, hkey, hvalue, hname, hform⟩ := hentry
        obtain ⟨w, hw, c, hc⟩ := hpq.2 v hvalue ⟨_, hform⟩
        obtain ⟨fs, hfs, hnames⟩ := ih _ hrest
        exact ⟨(nfc s, c) :: fs, .cons ⟨s, w, hpq.1 ▸ hkey, hw, rfl, hc⟩ hfs,
          by rw [List.map_cons, List.map_cons, hnames, hname]⟩
  obtain ⟨fs, hfs, hnames⟩ := hsame
  exact ⟨fs, hfs, hnames ▸ hnd⟩

theorem exists_entry_of_mem {ps : List (List ℕ × Option JsValue)}
    {es : List (String × JsonValue)} (h : List.Forall₂ (EntryForm nfc) ps es)
    {p : List ℕ × Option JsValue} (hp : p ∈ ps) : ∃ e ∈ es, EntryForm nfc p e := by
  induction h with
  | nil => cases hp
  | cons hpe _ ih =>
    rcases List.mem_cons.mp hp with rfl | hp
    · exact ⟨_, List.mem_cons_self, hpe⟩
    · obtain ⟨e, he, hform⟩ := ih hp
      exact ⟨e, List.mem_cons_of_mem _ he, hform⟩

theorem HasForm.isScalar {ps : List (List ℕ × Option JsValue)}
    (h : HasForm nfc (.object true false ps)) (key : String) {units : List ℕ}
    (hmem : textProperty key units ∈ ps) : IsScalar units := by
  obtain ⟨es, hentries, -⟩ := hasForm_object_iff.mp h
  obtain ⟨e, -, s, v, -, hvalue, -, hform⟩ := exists_entry_of_mem hentries hmem
  cases hvalue
  generalize e.2 = c at hform
  cases hform with
  | string hs => exact ⟨_, hs⟩

theorem hasForm_string {units : List ℕ} (h : IsScalar units) : HasForm nfc (.string units) := by
  obtain ⟨s, hs⟩ := h
  exact ⟨_, .string hs⟩

theorem nfc_eq_of_canonical {ps qs : List (List ℕ × Option JsValue)} {c : JsonValue}
    (hp : Canonical nfc (.object true false ps) c) (hq : Canonical nfc (.object true false qs) c)
    (key : String) {units units' : List ℕ} (hmem : textProperty key units ∈ ps)
    (hmem' : textProperty key units' ∈ qs) {s t : String} (hs : scalarString units = some s)
    (ht : scalarString units' = some t) : nfc s = nfc t := by
  have hentry : ∀ {rs : List (List ℕ × Option JsValue)} {es : List (String × JsonValue)}
      {us : List ℕ} {r : String}, CanonicalEntries nfc rs es → textProperty key us ∈ rs →
      scalarString us = some r → (nfc key, JsonValue.str (nfc r)) ∈ es := by
    intro rs es us r hentries hmem hr
    obtain ⟨e, he, k, v, hk, hvalue, hname, hform⟩ :=
      exists_entry_of_mem (canonicalEntries_iff.mp hentries) hmem
    cases hvalue
    have hkey : scalarString (codeUnits key) = some k := hk
    rw [scalarString_codeUnits, Option.some.injEq] at hkey
    have heq : e = (nfc key, JsonValue.str (nfc r)) :=
      Prod.ext (hname.trans (by rw [hkey])) (canonical_string hform hr)
    exact heq ▸ he
  obtain ⟨es, hentries, hnd, rfl⟩ := canonical_object hp
  obtain ⟨fs, hentries', hnd', hsame⟩ := canonical_object hq
  have hin := (perm_canonicalMembers hnd).mem_iff.mpr (hentry hentries hmem hs)
  rw [JsonValue.obj.inj hsame] at hin
  have hin' := (perm_canonicalMembers hnd').mem_iff.mp hin
  have heq := Keyed.eq_of_key_eq hnd' hin' (hentry hentries' hmem' ht) rfl
  exact JsonValue.str.inj (Prod.ext_iff.mp heq).2

end Forms

/-! ## The note in the markup -/

/-- Units that are characters of their own, none of them zero or a mark. -/
def IsPlain (units : List ℕ) : Prop := ∀ u ∈ units, 0 < u ∧ u < 0x80 ∧ Markup.isMark u = false

instance (units : List ℕ) : Decidable (IsPlain units) :=
  inferInstanceAs (Decidable (∀ u ∈ units, 0 < u ∧ u < 0x80 ∧ Markup.isMark u = false))

namespace IsPlain

variable {as bs : List ℕ}

theorem append (has : IsPlain as) (hbs : IsPlain bs) : IsPlain (as ++ bs) :=
  List.forall_mem_append.mpr ⟨has, hbs⟩

theorem endsWhole (h : IsPlain as) : EndsWhole as := by
  intro u hu
  have hlt := (h u (List.mem_of_getLast? hu)).2.1
  rw [isHighSurrogate, decide_eq_false_iff_not]
  omega

theorem zero_notMem (h : IsPlain as) : 0 ∉ as := fun hmem => absurd (h 0 hmem).1 (lt_irrefl 0)

theorem utf8Length : ∀ {as : List ℕ}, IsPlain as → utf8Length as = as.length
  | [], _ => rfl
  | u :: as, h => by
    rw [IsPlain, List.forall_mem_cons] at h
    have hu : IsPlain [u] := by simpa [IsPlain] using h.1
    rw [← List.singleton_append, utf8Length_append hu.endsWhole, utf8Length h.2,
      JooEvents.utf8Length, unitBytes, if_pos h.1.2.1, List.length_append, List.length_singleton]

end IsPlain

theorem isPlain_markedResendBodyNote : IsPlain markedResendBodyNote := by decide +kernel

theorem isPlain_htmlResendNote : IsPlain htmlResendNote :=
  (IsPlain.append (by decide +kernel) isPlain_markedResendBodyNote).append (by decide +kernel)

theorem isPlain_lineBreak : IsPlain [0xA] := by decide

theorem endsWhole_concat {units : List ℕ} {u : ℕ} (hu : isHighSurrogate u = false) :
    EndsWhole (units ++ [u]) := by
  intro v hv
  rw [List.getLast?_concat, Option.mem_some_iff] at hv
  exact hv ▸ hu

theorem matchBodyOpen_eq_some {html before after : List ℕ}
    (h : matchBodyOpen html = some (before, after)) :
    html = before ++ after ∧ ∃ init, before = init ++ [Markup.gt] := by
  unfold matchBodyOpen at h
  split at h
  · split at h
    · cases h
    · rename_i gt rest hdrop
      cases h
      have hgt : gt = Markup.gt := by
        have hne : (html.drop 5).dropWhile (fun u => decide (u ≠ Markup.gt)) ≠ [] := by
          rw [hdrop]
          exact List.cons_ne_nil _ _
        have hhead := List.head_dropWhile_not _ hne
        simp only [hdrop, List.head_cons] at hhead
        simpa using hhead
      refine ⟨?_, _, by rw [hgt]⟩
      have hwhole := List.takeWhile_append_dropWhile (p := fun u => decide (u ≠ Markup.gt))
        (l := html.drop 5)
      rw [hdrop] at hwhole
      rw [List.append_assoc, List.append_assoc, List.singleton_append, hwhole,
        List.take_append_drop]
  · cases h

theorem execBodyOpen_eq_some : ∀ {html before after : List ℕ},
    execBodyOpen html = some (before, after) →
      html = before ++ after ∧ ∃ init, before = init ++ [Markup.gt]
  | [], _, _, h => by cases h
  | u :: units, before, after, h => by
    rw [execBodyOpen] at h
    split at h
    · rename_i found hfound
      cases h
      exact matchBodyOpen_eq_some hfound
    · rw [Option.map_eq_some_iff] at h
      obtain ⟨found, hfound, heq⟩ := h
      cases heq
      obtain ⟨hunits, init, hinit⟩ := execBodyOpen_eq_some hfound
      exact ⟨by rw [hunits, List.cons_append], u :: init, by rw [hinit, List.cons_append]⟩

/-- The texts that come before and after the note. -/
inductive NoteAt (html : List ℕ) : List ℕ → List ℕ → List ℕ → Prop
  | inside {before after : List ℕ} (h : execBodyOpen html = some (before, after)) :
      NoteAt html before htmlResendNote after
  | ahead (h : execBodyOpen html = none) : NoteAt html [] (htmlResendNote ++ [0xA]) html

theorem exists_noteAt (html : List ℕ) :
    ∃ before lead after, NoteAt html before lead after ∧
      injectHtmlResendNote html = before ++ lead ++ after := by
  unfold injectHtmlResendNote
  split
  · rename_i before after h
    exact ⟨before, _, after, .inside h, rfl⟩
  · rename_i h
    exact ⟨[], _, html, .ahead h, by simp⟩

/-- The text with the note, or the note and a line break, at a place outside any tag. -/
def IsNoted (html marked : List ℕ) : Prop :=
  ∃ before after, html = before ++ after ∧ (Markup.stateAfter .text before).inTag = false ∧
    (marked = before ++ htmlResendNote ++ after ∨
      marked = before ++ (htmlResendNote ++ [0xA]) ++ after)

theorem mem_of_commute {as : List ℕ} (has : as ≠ []) :
    ∀ {xs : List ℕ}, as ++ xs = xs ++ as → ∀ u ∈ xs, u ∈ as := by
  intro xs
  induction hn : xs.length using Nat.strong_induction_on generalizing xs with
  | _ n ih =>
    intro h u hu
    rcases List.append_eq_append_iff.mp h with ⟨ys, hys, hrest⟩ | ⟨ys, hys, hrest⟩
    · -- the text is a prefix of what commutes with it
      have hlt : ys.length < n := by
        rw [← hn, hys, List.length_append]
        have := List.length_pos_of_ne_nil has
        omega
      rw [hys, List.mem_append] at hu
      rcases hu with hu | hu
      · exact hu
      · refine ih ys.length hlt rfl ?_ u hu
        rw [← hrest, hys]
    · rw [hys]
      exact List.mem_append_left _ hu

theorem isScalar_htmlResendNote : IsScalar htmlResendNote := by
  have hopen : IsPlain (codeUnits "<p>") := by decide +kernel
  rw [htmlResendNote, isScalar_append (hopen.append isPlain_markedResendBodyNote).endsWhole,
    isScalar_append hopen.endsWhole]
  exact ⟨⟨isScalar_codeUnits _, isScalar_codeUnits _⟩, isScalar_codeUnits _⟩

theorem htmlResendNote_ne_nil : htmlResendNote ≠ [] := by
  simp [htmlResendNote, codeUnits, Json.utf16Units]

theorem isNoted_injectHtmlResendNote_iff (html : List ℕ) :
    IsNoted html (injectHtmlResendNote html) ↔
      ∀ before after, execBodyOpen html = some (before, after) →
        (Markup.stateAfter .text before).isQuoted = false := by
  obtain ⟨before, lead, after, hat, hinject⟩ := exists_noteAt html
  rw [hinject]
  cases hat with
  | ahead hnone =>
    refine ⟨fun _ before after h => (by rw [hnone] at h; cases h), fun _ => ?_⟩
    exact ⟨[], html, rfl, rfl, .inr rfl⟩
  | inside hsome =>
    obtain ⟨hhtml, init, hinit⟩ := execBodyOpen_eq_some hsome
    constructor
    · rintro ⟨before', after', hhtml', houtside, hnote⟩ x y hxy
      rw [hsome] at hxy
      cases hxy
      have hsplit : before ++ after = before' ++ after' := hhtml.symm.trans hhtml'
      have hlength := congrArg List.length hsplit
      have hinsert : before ++ (htmlResendNote ++ after) =
          before' ++ (htmlResendNote ++ after') := by
        rcases hnote with hnote | hnote
        · simpa using hnote
        · have := congrArg List.length hnote
          simp only [List.length_append, List.length_singleton] at this hlength
          omega
      rw [Bool.eq_false_iff]
      intro hquoted
      -- two places with one result differ by a text that commutes with the note
      rcases List.append_eq_append_iff.mp hsplit with ⟨xs, rfl, rfl⟩ | ⟨xs, rfl, rfl⟩
      · have hcommute : htmlResendNote ++ xs = xs ++ htmlResendNote := by
          rw [List.append_assoc, List.append_cancel_left_eq, ← List.append_assoc,
            ← List.append_assoc, List.append_cancel_right_eq] at hinsert
          exact hinsert
        have hmarks : ∀ u ∈ xs, Markup.isMark u = false := fun u hu =>
          (isPlain_htmlResendNote u (mem_of_commute htmlResendNote_ne_nil hcommute u hu)).2.2
        rw [Markup.stateAfter_append] at houtside
        rw [← Markup.isQuoted_stateAfter hmarks] at hquoted
        exact absurd houtside (by rw [Markup.State.inTag_of_isQuoted hquoted]; decide)
      · have hcommute : htmlResendNote ++ xs = xs ++ htmlResendNote := by
          rw [List.append_assoc, List.append_cancel_left_eq, ← List.append_assoc,
            ← List.append_assoc, List.append_cancel_right_eq] at hinsert
          exact hinsert.symm
        have hmarks : ∀ u ∈ xs, Markup.isMark u = false := fun u hu =>
          (isPlain_htmlResendNote u (mem_of_commute htmlResendNote_ne_nil hcommute u hu)).2.2
        rw [Markup.stateAfter_append, Markup.isQuoted_stateAfter hmarks] at hquoted
        exact absurd houtside (by rw [Markup.State.inTag_of_isQuoted hquoted]; decide)
    · intro h
      refine ⟨before, after, hhtml, ?_, .inl rfl⟩
      have hquoted := h before after hsome
      rw [Bool.eq_false_iff]
      intro htag
      rw [hinit, Markup.stateAfter_append] at htag hquoted
      have := Markup.isQuoted_of_inTag_step_gt htag
      exact absurd hquoted (by simpa using this)

/-! ## The copy -/

section Copy

variable {D : Type} {host : EnvelopeHost D} {reviewed envelope : ImmutableEmailEnvelope} {d : D}

def FitsBody (units : List ℕ) : Prop := utf8Length units ≤ emailBodyMaximumLength ∧ 0 ∉ units

theorem computeDigest_eq_ok :
    computeReviewedEmailEnvelopeDigestSha256 host envelope = .ok d ↔
      validateEnvelope envelope = .ok () ∧ ∃ c, Canonical host.nfc envelope.value c ∧
        d = host.sha256 (String.ofList c.stringify) := by
  simp only [computeReviewedEmailEnvelopeDigestSha256, bind_eq_ok, map_eq_ok, mapError_eq_ok,
    canonicalJsonText, canonicalJsonValue_eq_ok_iff]
  constructor
  · rintro ⟨_, hvalid, text, ⟨c, hc, rfl⟩, rfl⟩
    exact ⟨hvalid, c, hc, rfl⟩
  · rintro ⟨hvalid, c, hc, rfl⟩
    exact ⟨(), hvalid, _, ⟨c, hc, rfl⟩, rfl⟩

theorem marked_subject (reviewed : ImmutableEmailEnvelope) :
    reviewed.marked.subject = markedResendSubjectPrefix ++ reviewed.subject.take 989 := by
  have hlength : markedResendSubjectPrefix.length = 9 := by decide +kernel
  rw [ImmutableEmailEnvelope.marked, List.take_append, hlength, List.take_of_length_le]
  · rfl
  · rw [hlength]
    decide

theorem validateEnvelope_marked_iff (h : validateEnvelope reviewed = .ok ()) :
    validateEnvelope reviewed.marked = .ok () ↔
      FitsBody reviewed.marked.textBody ∧ ∀ html ∈ reviewed.marked.htmlBody, FitsBody html := by
  simp only [validateEnvelope, bind_eq_ok, require_eq_ok, exists_const] at h ⊢
  obtain ⟨-, hfrom, hto, hreply, hname, hreplyName, ⟨-, -, hbreak⟩, -, -, hcount, hheaders⟩ := h
  constructor
  · rintro ⟨-, -, -, -, -, -, -, htext, hhtml, -, -⟩
    exact ⟨htext, hhtml⟩
  · rintro ⟨htext, hhtml⟩
    refine ⟨rfl, hfrom, hto, hreply, hname, hreplyName, ⟨?_, ?_, ?_⟩, htext, hhtml, hcount,
      hheaders⟩
    · rw [marked_subject]
      exact List.append_ne_nil_of_left_ne_nil (by decide) _
    · exact List.length_take_le _ _
    · have hprefix : markedResendSubjectPrefix.any isBreakUnit = false := by decide +kernel
      rw [marked_subject, List.any_append, hprefix, Bool.false_or, List.any_eq_false]
      rw [List.any_eq_false] at hbreak
      exact fun u hu => hbreak u (List.mem_of_mem_take hu)

theorem fitsBody_marked_textBody (h : FitsBody reviewed.textBody) :
    FitsBody reviewed.marked.textBody ↔
      utf8Length reviewed.textBody + (markedResendBodyNote.length + 2) ≤
        emailBodyMaximumLength := by
  have hlead : IsPlain (markedResendBodyNote ++ [0xA, 0xA]) :=
    isPlain_markedResendBodyNote.append (by decide)
  have hlength : (markedResendBodyNote ++ [0xA, 0xA]).length = markedResendBodyNote.length + 2 := by
    rw [List.length_append, List.length_cons, List.length_singleton]
  rw [FitsBody, ImmutableEmailEnvelope.marked, utf8Length_append hlead.endsWhole,
    hlead.utf8Length, hlength, Nat.add_comm]
  exact and_iff_left (fun hmem => (List.mem_append.mp hmem).elim hlead.zero_notMem h.2)

def noteBytes (html : List ℕ) : ℕ :=
  htmlResendNote.length + if (execBodyOpen html).isSome then 0 else 1

theorem fitsBody_injectHtmlResendNote {html : List ℕ} (h : FitsBody html) :
    FitsBody (injectHtmlResendNote html) ↔
      utf8Length html + noteBytes html ≤ emailBodyMaximumLength := by
  obtain ⟨before, lead, after, hat, hinject⟩ := exists_noteAt html
  have hparts : html = before ++ after ∧ EndsWhole before ∧ IsPlain lead ∧
      lead.length = noteBytes html := by
    cases hat with
    | inside hsome =>
      obtain ⟨hhtml, init, hinit⟩ := execBodyOpen_eq_some hsome
      exact ⟨hhtml, hinit ▸ endsWhole_concat (by decide), isPlain_htmlResendNote,
        by simp [noteBytes, hsome]⟩
    | ahead hnone =>
      exact ⟨rfl, by simp [EndsWhole], isPlain_htmlResendNote.append isPlain_lineBreak,
        by simp [noteBytes, hnone]⟩
  obtain ⟨rfl, hbefore, hlead, hbytes⟩ := hparts
  rw [hinject, FitsBody, utf8Length_append (hbefore.append hlead.endsWhole),
    utf8Length_append hbefore, hlead.utf8Length, hbytes, utf8Length_append hbefore]
  have hfree : 0 ∉ before ++ lead ++ after := by
    have hhtml := h.2
    simp only [List.mem_append, not_or] at hhtml ⊢
    exact ⟨⟨hhtml.1, hlead.zero_notMem⟩, hhtml.2⟩
  rw [and_iff_left hfree]
  omega

theorem isScalar_injectHtmlResendNote {html : List ℕ} (h : IsScalar html) :
    IsScalar (injectHtmlResendNote html) := by
  obtain ⟨before, lead, after, hat, hinject⟩ := exists_noteAt html
  have hparts : html = before ++ after ∧ EndsWhole before ∧ IsScalar lead := by
    cases hat with
    | inside hsome =>
      obtain ⟨hhtml, init, hinit⟩ := execBodyOpen_eq_some hsome
      exact ⟨hhtml, hinit ▸ endsWhole_concat (by decide), isScalar_htmlResendNote⟩
    | ahead hnone =>
      exact ⟨rfl, by simp [EndsWhole], (isScalar_append isScalar_htmlResendNote.endsWhole).mpr
        ⟨isScalar_htmlResendNote, isScalar_codeUnits (String.singleton (Char.ofNat 0xA))⟩⟩
  obtain ⟨rfl, hbefore, hlead⟩ := hparts
  have hboth := (isScalar_append hbefore).mp h
  rw [hinject, isScalar_append (hbefore.append hlead.endsWhole), isScalar_append hbefore]
  exact ⟨⟨hboth.1, hlead⟩, hboth.2⟩

theorem hasForm_marked (h : HasForm host.nfc reviewed.value)
    (hversion : reviewed.contractVersion = .finite ⟨false, 1, 0, by decide⟩)
    (hsubject : IsScalar reviewed.marked.subject)
    (htext : IsScalar reviewed.marked.textBody)
    (hhtml : ∀ html ∈ reviewed.htmlBody, IsScalar (injectHtmlResendNote html)) :
    HasForm host.nfc reviewed.marked.value := by
  have hsame : ∀ {p : List ℕ × Option JsValue}, p.1 = p.1 ∧ ∀ v, p.2 = some v →
      HasForm host.nfc v → ∃ w, p.2 = some w ∧ HasForm host.nfc w :=
    fun {p} => ⟨rfl, fun v hv hform => ⟨v, hv, hform⟩⟩
  have hreplaced : ∀ {key : String} {units units' : List ℕ}, IsScalar units' →
      (textProperty key units).1 = (textProperty key units').1 ∧
        ∀ v, (textProperty key units).2 = some v → HasForm host.nfc v →
          ∃ w, (textProperty key units').2 = some w ∧ HasForm host.nfc w :=
    fun hunits => ⟨rfl, fun v hv hform => ⟨_, rfl, hasForm_string hunits⟩⟩
  refine h.replace ?_
  unfold ImmutableEmailEnvelope.properties
  refine List.rel_append (List.rel_append ?_ ?_) ?_
  · rw [hversion]
    exact .cons hsame (.cons hsame (.cons hsame (.cons (hreplaced hsubject)
      (.cons (hreplaced htext) (.cons hsame .nil)))))
  · exact List.forall₂_same.mpr fun p _ => hsame
  · rw [ImmutableEmailEnvelope.marked]
    cases hbody : reviewed.htmlBody with
    | none => exact .nil
    | some html => exact .cons (hreplaced (hhtml html hbody)) .nil

/-- The envelope is the reviewed one, marked as a resend. -/
structure MarkedCopy (host : EnvelopeHost D) (reviewed derived : ImmutableEmailEnvelope) :
    Prop where
  digest : ∃ d d', computeReviewedEmailEnvelopeDigestSha256 host reviewed = .ok d ∧
    computeReviewedEmailEnvelopeDigestSha256 host derived = .ok d' ∧ d ≠ d'
  subject : ∃ kept, derived.subject = markedResendSubjectPrefix ++ kept ∧
    kept <+: reviewed.subject ∧ IsScalar kept
  textBody : derived.textBody = markedResendBodyNote ++ [0xA, 0xA] ++ reviewed.textBody
  htmlBody : Option.Rel IsNoted reviewed.htmlBody derived.htmlBody
  fromParty : derived.fromParty = reviewed.fromParty
  toAddress : derived.toAddress = reviewed.toAddress
  replyTo : derived.replyTo = reviewed.replyTo
  headers : derived.headers = reviewed.headers

/-- What it takes for an envelope to be resent : the subject is not cut within a pair of
surrogates, the bodies leave room for the note, and the first `<body>` of the markup does not
end in a value between marks. -/
structure Resendable (reviewed : ImmutableEmailEnvelope) : Prop where
  subject : EndsWhole (reviewed.subject.take 989)
  textBody : utf8Length reviewed.textBody + (markedResendBodyNote.length + 2) ≤
    emailBodyMaximumLength
  htmlBody : ∀ html ∈ reviewed.htmlBody, utf8Length html + noteBytes html ≤ emailBodyMaximumLength
  bodyOpen : ∀ html ∈ reviewed.htmlBody, ∀ before after, execBodyOpen html = some (before, after) →
    (Markup.stateAfter .text before).isQuoted = false

theorem deriveMarked_eq_ok {derived : ImmutableEmailEnvelope} :
    deriveMarkedResendEmailEnvelope host reviewed = .ok derived ↔
      (∃ d, computeReviewedEmailEnvelopeDigestSha256 host reviewed = .ok d) ∧
        (∃ d, computeReviewedEmailEnvelopeDigestSha256 host reviewed.marked = .ok d) ∧
        reviewed.marked = derived := by
  simp only [deriveMarkedResendEmailEnvelope, bind_eq_ok, pure_eq_ok]
  constructor
  · rintro ⟨d, hd, d', hd', rfl⟩
    exact ⟨⟨d, hd⟩, ⟨d', hd'⟩, rfl⟩
  · rintro ⟨⟨d, hd⟩, ⟨d', hd'⟩, rfl⟩
    exact ⟨d, hd, d', hd', rfl⟩

theorem isScalar_of_hasForm (h : HasForm host.nfc envelope.value) :
    IsScalar envelope.subject ∧ IsScalar envelope.textBody ∧
      ∀ html ∈ envelope.htmlBody, IsScalar html := by
  refine ⟨h.isScalar "subject" ?_, h.isScalar "textBody" ?_,
    fun html hhtml => h.isScalar "htmlBody" ?_⟩
  · simp [ImmutableEmailEnvelope.properties]
  · simp [ImmutableEmailEnvelope.properties]
  · rw [Option.mem_def] at hhtml
    simp [ImmutableEmailEnvelope.properties, hhtml]

theorem scalarString_codeUnits_append (s : String) (units : List ℕ) :
    scalarString (codeUnits s ++ units) = (scalarString units).map (s ++ ·) := by
  have h : ∀ cs : List Char, unicodeScalars (cs.flatMap Json.utf16Units ++ units) =
      (unicodeScalars units).map (cs ++ ·) := by
    intro cs
    induction cs with
    | nil => simp
    | cons c cs ih =>
      rw [List.flatMap_cons, List.append_assoc, unicodeScalars_append, ih, Option.map_map]
      rfl
  rw [scalarString, codeUnits, h, scalarString, Option.map_map, Option.map_map]
  refine congrArg (fun f => Option.map f _) (funext fun cs => ?_)
  simp [String.ofList_append]

theorem nfc_marked_textBody_ne (hnfc : ∀ s t, host.nfc (s ++ "\n" ++ t) =
      host.nfc s ++ "\n" ++ host.nfc t) {s t : String}
    (hs : scalarString reviewed.textBody = some s)
    (ht : scalarString reviewed.marked.textBody = some t) : host.nfc s ≠ host.nfc t := by
  have hlead : markedResendBodyNote ++ [0xA, 0xA] =
      codeUnits (markedResendBodyNoteText ++ "\n" ++ "\n") := by
    simp [markedResendBodyNote, codeUnits, Json.utf16Units]
  have hmarked : reviewed.marked.textBody =
      codeUnits (markedResendBodyNoteText ++ "\n" ++ "\n") ++ reviewed.textBody :=
    congrArg (· ++ reviewed.textBody) hlead
  rw [hmarked, scalarString_codeUnits_append, hs, Option.map_some, Option.some.injEq] at ht
  intro heq
  rw [← ht, hnfc] at heq
  have hlength := congrArg String.length heq
  rw [String.length_append, String.length_append] at hlength
  have hbreak : "\n".length = 1 := rfl
  omega

theorem digest_marked_ne (hcf : Function.Injective host.sha256)
    (hnfc : ∀ s t, host.nfc (s ++ "\n" ++ t) = host.nfc s ++ "\n" ++ host.nfc t) {d' : D}
    (h : computeReviewedEmailEnvelopeDigestSha256 host reviewed = .ok d)
    (h' : computeReviewedEmailEnvelopeDigestSha256 host reviewed.marked = .ok d') : d ≠ d' := by
  obtain ⟨-, c, hc, rfl⟩ := computeDigest_eq_ok.mp h
  obtain ⟨-, c', hc', rfl⟩ := computeDigest_eq_ok.mp h'
  obtain ⟨-, ⟨s, hs⟩, -⟩ := isScalar_of_hasForm ⟨c, hc⟩
  obtain ⟨-, ⟨t, ht⟩, -⟩ := isScalar_of_hasForm ⟨c', hc'⟩
  intro heq
  have hforms : c = c' := JsonValue.stringify_injOn_proper hc.proper hc'.proper
    (String.ofList_injective (hcf heq))
  subst hforms
  refine nfc_marked_textBody_ne hnfc hs ht (nfc_eq_of_canonical hc hc' "textBody" ?_ ?_
    hs ht)
  · simp [ImmutableEmailEnvelope.properties]
  · simp [ImmutableEmailEnvelope.properties]

theorem exists_computeDigest_marked_iff
    (h : computeReviewedEmailEnvelopeDigestSha256 host reviewed = .ok d) :
    (∃ d', computeReviewedEmailEnvelopeDigestSha256 host reviewed.marked = .ok d') ↔
      EndsWhole (reviewed.subject.take 989) ∧
        FitsBody reviewed.marked.textBody ∧ ∀ html ∈ reviewed.marked.htmlBody, FitsBody html := by
  obtain ⟨hvalid, c, hc, -⟩ := computeDigest_eq_ok.mp h
  obtain ⟨hsubject, htext, hhtml⟩ := isScalar_of_hasForm ⟨c, hc⟩
  have hprefix : IsScalar markedResendSubjectPrefix := isScalar_codeUnits _
  have hcut : IsScalar reviewed.marked.subject ↔ EndsWhole (reviewed.subject.take 989) := by
    rw [marked_subject, isScalar_append hprefix.endsWhole, isScalar_take_iff hsubject]
    exact and_iff_right hprefix
  have hversion : reviewed.contractVersion = .finite ⟨false, 1, 0, by decide⟩ := by
    simp only [validateEnvelope, bind_eq_ok, require_eq_ok, exists_const] at hvalid
    exact hvalid.1
  constructor
  · rintro ⟨d', h'⟩
    obtain ⟨hvalid', c', hc', -⟩ := computeDigest_eq_ok.mp h'
    exact ⟨hcut.mp (isScalar_of_hasForm ⟨c', hc'⟩).1,
      (validateEnvelope_marked_iff hvalid).mp hvalid'⟩
  · rintro ⟨hends, hfits⟩
    have hlead : IsScalar (markedResendBodyNote ++ [0xA, 0xA]) :=
      (isScalar_append isPlain_markedResendBodyNote.endsWhole).mpr
        ⟨isScalar_codeUnits _, isScalar_codeUnits (String.ofList ['\n', '\n'])⟩
    obtain ⟨c', hc'⟩ := hasForm_marked ⟨c, hc⟩ hversion (hcut.mpr hends)
      ((isScalar_append hlead.endsWhole).mpr ⟨hlead, htext⟩)
      fun html hmem => isScalar_injectHtmlResendNote (hhtml html hmem)
    exact ⟨_, computeDigest_eq_ok.mpr
      ⟨(validateEnvelope_marked_iff hvalid).mpr hfits, c', hc', rfl⟩⟩

theorem fitsBody_of_validate (h : validateEnvelope reviewed = .ok ()) :
    FitsBody reviewed.textBody ∧ ∀ html ∈ reviewed.htmlBody, FitsBody html := by
  simp only [validateEnvelope, bind_eq_ok, require_eq_ok, exists_const] at h
  exact ⟨h.2.2.2.2.2.2.2.1, h.2.2.2.2.2.2.2.2.1⟩

/-- An envelope that has a digest is resent as a marked copy exactly when it is resendable. -/
theorem marked_resend_iff (hcf : Function.Injective host.sha256)
    (hnfc : ∀ s t, host.nfc (s ++ "\n" ++ t) = host.nfc s ++ "\n" ++ host.nfc t)
    (hreviewed : computeReviewedEmailEnvelopeDigestSha256 host reviewed = .ok d) :
    (∃ derived, deriveMarkedResendEmailEnvelope host reviewed = .ok derived ∧
      MarkedCopy host reviewed derived) ↔ Resendable reviewed := by
  obtain ⟨hvalid, c, hc, -⟩ := computeDigest_eq_ok.mp hreviewed
  obtain ⟨hsubject, -, -⟩ := isScalar_of_hasForm ⟨c, hc⟩
  obtain ⟨htextFits, hhtmlFits⟩ := fitsBody_of_validate hvalid
  have hdigest := exists_computeDigest_marked_iff hreviewed
  rw [fitsBody_marked_textBody htextFits] at hdigest
  constructor
  · rintro ⟨derived, hderived, hcopy⟩
    obtain ⟨-, hmarked, rfl⟩ := deriveMarked_eq_ok.mp hderived
    obtain ⟨hends, htext, hhtml⟩ := hdigest.mp hmarked
    have hbody := hcopy.htmlBody
    refine ⟨hends, htext, fun html hmem => ?_, fun html hmem => ?_⟩
    · exact (fitsBody_injectHtmlResendNote (hhtmlFits html hmem)).mp
        (hhtml _ (Option.mem_map_of_mem _ hmem))
    · rw [ImmutableEmailEnvelope.marked, Option.mem_def.mp hmem] at hbody
      cases hbody with
      | some hnoted => exact (isNoted_injectHtmlResendNote_iff html).mp hnoted
  · intro hresendable
    have hhtml : ∀ html ∈ reviewed.marked.htmlBody, FitsBody html := by
      intro html hmem
      obtain ⟨html', hmem', rfl⟩ := Option.mem_map.mp hmem
      exact (fitsBody_injectHtmlResendNote (hhtmlFits html' hmem')).mpr
        (hresendable.htmlBody html' hmem')
    obtain ⟨d', hd'⟩ := hdigest.mpr ⟨hresendable.subject, hresendable.textBody, hhtml⟩
    refine ⟨reviewed.marked, deriveMarked_eq_ok.mpr ⟨⟨d, hreviewed⟩, ⟨d', hd'⟩, rfl⟩, ?_⟩
    refine ⟨⟨d, d', hreviewed, hd', digest_marked_ne hcf hnfc hreviewed hd'⟩,
      ⟨_, marked_subject reviewed, List.take_prefix _ _,
        (isScalar_take_iff hsubject _).mpr hresendable.subject⟩, rfl, ?_, rfl, rfl, rfl, rfl⟩
    rw [ImmutableEmailEnvelope.marked]
    cases hbody : reviewed.htmlBody with
    | none => exact .none
    | some html => exact .some ((isNoted_injectHtmlResendNote_iff html).mpr
        (hresendable.bodyOpen html hbody))

end Copy

namespace ResendExample

/-- Normalization and hashing that keep texts as they are. -/
def host : EnvelopeHost String where
  nfc s := s
  sha256 s := s

theorem isNormal_one : ¬ 10 ∣ 1 ∨ false = false ∧ 1 = 0 ∧ (0 : ℤ) = 0 := by decide

def envelope (subject : List ℕ) : ImmutableEmailEnvelope where
  contractVersion := .finite ⟨false, 1, 0, isNormal_one⟩
  fromParty := ⟨codeUnits "team@x.y", none⟩
  toAddress := codeUnits "a@x.y"
  replyTo := none
  subject := subject
  textBody := codeUnits "Hello"
  htmlBody := some (codeUnits "<body><p>Hello</p></body>")
  headers := []

/-- A subject whose 989th unit is the first half of a pair. -/
def longSubject : List ℕ := List.replicate 988 97 ++ [0xD83D, 0xDE00]

end ResendExample

open ResendExample in
/-- An envelope with a short subject is resent. -/
theorem marked_resend_short :
    ∃ derived, deriveMarkedResendEmailEnvelope host (envelope (codeUnits "Hi")) = .ok derived ∧
      MarkedCopy host (envelope (codeUnits "Hi")) derived := by
  obtain ⟨d, hd⟩ := exists_of_toBool (show (computeReviewedEmailEnvelopeDigestSha256 host
    (envelope (codeUnits "Hi"))).toBool = true by decide +kernel)
  refine (marked_resend_iff (fun _ _ h => h) (fun _ _ => rfl) hd).mpr
    ⟨by decide +kernel, by decide +kernel, by decide +kernel, ?_⟩
  rintro html ⟨⟩ before after h
  have hopen : execBodyOpen (codeUnits "<body><p>Hello</p></body>") =
      some (codeUnits "<body>", codeUnits "<p>Hello</p></body>") := by decide +kernel
  rw [hopen] at h
  cases h
  decide +kernel

open ResendExample in
/-- An envelope whose subject is cut within a pair has a digest, and cannot be resent. -/
theorem long_subject_cannot_be_resent :
    (∃ d, computeReviewedEmailEnvelopeDigestSha256 host (envelope longSubject) = .ok d) ∧
      ¬ ∃ derived, deriveMarkedResendEmailEnvelope host (envelope longSubject) = .ok derived := by
  have hdigest := exists_of_toBool (show (computeReviewedEmailEnvelopeDigestSha256 host
    (envelope longSubject)).toBool = true by decide +kernel)
  refine ⟨hdigest, ?_⟩
  rintro ⟨derived, hderived⟩
  obtain ⟨⟨d, hd⟩, hmarked, -⟩ := deriveMarked_eq_ok.mp hderived
  have hends := ((exists_computeDigest_marked_iff hd).mp hmarked).1
  exact absurd hends (by decide +kernel)

end JooEvents
