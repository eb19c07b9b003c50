import JooEvents.Session.Compensation

/-!
# Sessions told apart by their encodings

Free text is the same up to normalization, but the texts of a head that satisfies its
schema are in normal form : a head is determined by its canonical encoding
(`SessionHead.eq_of_same`). So a validated plan writes the very head that planning the
change again gives.
-/

namespace JooEvents

variable {D : Type} {host : Host D}

theorem eq_of_same_normalized {a b : String} (ha : normalizedProgramVocabularyName host a = a)
    (hb : normalizedProgramVocabularyName host b = b) (h : host.Same a b) : a = b := by
  rw [← ha, ← hb]
  unfold normalizedProgramVocabularyName
  rw [Host.same_text_iff.mp h]

theorem normalized_of_isCanonicalText {maximum : ℕ} {a : String}
    (h : isCanonicalText host maximum a = true) : normalizedProgramVocabularyName host a = a :=
  (of_decide_eq_true h).2.2

theorem ascii_of_isSourceKind {kind : String} (h : isSourceKind kind = true) :
    isAscii kind = true :=
  ascii_of_isDottedIdentifier h

theorem SessionRosterSourceRef.eq_of_same {a b : SessionRosterSourceRef}
    (ha : sourceSchema host a = true) (hb : sourceSchema host b = true) (h : host.Same a b) :
    a = b := by
  simp only [sourceSchema, Bool.and_eq_true] at ha hb
  have h := Iff.mp (Host.canonicalize_record_iff
    (by simp only [List.map_cons, List.map_nil]; decide) (by rfl)) h
  simp only [List.map_cons, List.map_nil, List.cons.injEq, canonicalize_toJson_eq_iff,
    Host.same_iff_eq, and_true] at h
  obtain ⟨hid, hkind, hversion⟩ := h
  cases a
  cases b
  simp only [mk.injEq]
  exact ⟨Host.eq_of_same_text (ascii_of_isSourceKind ha.1) (ascii_of_isSourceKind hb.1) hkind,
    eq_of_same_normalized (normalized_of_isCanonicalText ha.2)
      (normalized_of_isCanonicalText hb.2) hid, hversion⟩

theorem SessionParticipantRef.eq_of_same {a b : SessionParticipantRef}
    (ha : participantSchema host a = true) (hb : participantSchema host b = true)
    (h : host.Same a b) : a = b := by
  simp only [participantSchema, Bool.and_eq_true] at ha hb
  have h := Iff.mp (Host.canonicalize_record_iff
    (by simp only [List.map_cons, List.map_nil]; decide) (by rfl)) h
  simp only [List.map_cons, List.map_nil, List.cons.injEq, canonicalize_toJson_eq_iff,
    Host.same_iff_eq, and_true] at h
  obtain ⟨hperson, hposition, hvisible, hrole, hsource⟩ := h
  cases a
  cases b
  simp only [mk.injEq]
  exact ⟨hperson, hrole, hposition, hvisible, SessionRosterSourceRef.eq_of_same ha.2 hb.2 hsource⟩

theorem eq_of_same_list {α : Type} [ToJson D α] {p : α → Bool}
    (hp : ∀ {a b : α}, p a = true → p b = true → host.Same a b → a = b) :
    ∀ {as bs : List α}, as.all p = true → bs.all p = true → host.Same as bs → as = bs := by
  intro as bs has hbs h
  rw [Host.same_list_iff] at h
  induction as generalizing bs with
  | nil => exact (List.map_eq_nil_iff.mp h.symm).symm
  | cons a as ih =>
    cases bs with
    | nil => cases h
    | cons b bs =>
      simp only [List.all_cons, Bool.and_eq_true] at has hbs
      simp only [List.map_cons, List.cons.injEq] at h
      rw [hp has.1 hbs.1 h.1, ih has.2 hbs.2 h.2]

theorem SessionRosterEvidence.eq_of_same {a b : SessionRosterEvidence D}
    (ha : rosterSchema host a = true) (hb : rosterSchema host b = true) (h : host.Same a b) :
    a = b := by
  simp only [rosterSchema, Bool.and_eq_true] at ha hb
  have h := Iff.mp (Host.canonicalize_record_iff
    (by simp only [List.map_cons, List.map_nil]; decide) (by rfl)) h
  simp only [List.map_cons, List.map_nil, List.cons.injEq, canonicalize_toJson_eq_iff,
    Host.same_iff_eq, and_true, Json.canonicalize_digest, Json.digest.injEq] at h
  obtain ⟨hdigest, hparticipants, hversion⟩ := h
  cases a
  cases b
  simp only [mk.injEq]
  exact ⟨hversion, hdigest, eq_of_same_list SessionParticipantRef.eq_of_same ha.1.1.1 hb.1.1.1
    hparticipants⟩

theorem SessionFormatEvidence.eq_of_same {a b : SessionFormatEvidence}
    (ha : isCanonicalProgramVocabularyName host a.name = true)
    (hb : isCanonicalProgramVocabularyName host b.name = true) (h : host.Same a b) : a = b := by
  have h := Iff.mp (Host.canonicalize_record_iff
    (by simp only [List.map_cons, List.map_nil]; decide) (by rfl)) h
  simp only [List.map_cons, List.map_nil, List.cons.injEq, canonicalize_toJson_eq_iff,
    Host.same_iff_eq, and_true, true_and] at h
  obtain ⟨hid, hname, hversion⟩ := h
  cases a
  cases b
  simp only [mk.injEq]
  exact ⟨hid, eq_of_same_canonicalName ha hb hname, hversion⟩

theorem SessionTrackEvidence.eq_of_same {a b : SessionTrackEvidence}
    (ha : isCanonicalProgramVocabularyName host a.name = true)
    (hb : isCanonicalProgramVocabularyName host b.name = true) (h : host.Same a b) : a = b := by
  have h := Iff.mp (Host.canonicalize_record_iff
    (by simp only [List.map_cons, List.map_nil]; decide) (by rfl)) h
  simp only [List.map_cons, List.map_nil, List.cons.injEq, canonicalize_toJson_eq_iff,
    Host.same_iff_eq, and_true, true_and] at h
  obtain ⟨haccent, hid, hname, hversion⟩ := h
  cases a
  cases b
  simp only [mk.injEq]
  exact ⟨hid, eq_of_same_canonicalName ha hb hname, haccent, hversion⟩

instance : NonNullJson D SessionTrackEvidence := ⟨fun _ _ => canonicalize_obj_ne_null _ _⟩

theorem SessionProgramTargetEvidence.eq_of_same {a b : SessionProgramTargetEvidence D}
    (ha : targetSchema host a = true) (hb : targetSchema host b = true) (h : host.Same a b) :
    a = b := by
  simp only [targetSchema, Bool.and_eq_true] at ha hb
  have h := Iff.mp (Host.canonicalize_record_iff
    (by simp only [List.map_cons, List.map_nil]; decide) (by rfl)) h
  simp only [List.map_cons, List.map_nil, List.cons.injEq, canonicalize_toJson_eq_iff,
    Host.same_iff_eq, and_true, Json.canonicalize_digest, Json.digest.injEq] at h
  obtain ⟨hformat, hdigest, hversion, htrack⟩ := h
  obtain ⟨setVersiona, setDigesta, formata, tracka⟩ := a
  obtain ⟨setVersionb, setDigestb, formatb, trackb⟩ := b
  simp only [mk.injEq]
  refine ⟨hversion, hdigest, SessionFormatEvidence.eq_of_same ha.1 hb.1 hformat, ?_⟩
  cases tracka with
  | none =>
    cases trackb with
    | none => rfl
    | some b => exact absurd htrack.symm Host.not_same_some_none
  | some a =>
    cases trackb with
    | none => exact absurd htrack Host.not_same_some_none
    | some b =>
      exact congrArg some (SessionTrackEvidence.eq_of_same (by simpa using ha.2)
        (by simpa using hb.2) htrack)

instance : NonNullJson D (SessionHead D) := ⟨fun _ _ => canonicalize_obj_ne_null _ _⟩

theorem SessionHead.eq_of_same {a b : SessionHead D} (ha : headSchema host a = true)
    (hb : headSchema host b = true) (h : host.Same a b) : a = b := by
  simp only [headSchema, Bool.and_eq_true] at ha hb
  have h := Iff.mp (Host.canonicalize_record_iff (by
    simp only [UnsignedSessionHead.earlyMembers, UnsignedSessionHead.lateMembers,
      List.cons_append, List.nil_append, List.map_cons, List.map_nil]; decide) (by rfl)) h
  simp only [UnsignedSessionHead.earlyMembers, UnsignedSessionHead.lateMembers, List.cons_append,
    List.nil_append, List.map_cons, List.map_nil, List.cons.injEq, canonicalize_toJson_eq_iff,
    Host.same_iff_eq, and_true, true_and, Json.canonicalize_digest, Json.digest.injEq] at h
  obtain ⟨hcreated, hcreatedBy, hdigest, hid, hlifecycle, hduration, htarget, hroster, hscope,
    htitle, hupdated, hupdatedBy, hversion⟩ := h
  have htitle := eq_of_same_normalized (normalized_of_isCanonicalText ha.1.1)
    (normalized_of_isCanonicalText hb.1.1) htitle
  have htarget := SessionProgramTargetEvidence.eq_of_same ha.1.2 hb.1.2 htarget
  have hroster := SessionRosterEvidence.eq_of_same ha.2 hb.2 hroster
  obtain ⟨⟨⟩, digesta⟩ := a
  obtain ⟨⟨⟩, digestb⟩ := b
  simp only [mk.injEq, UnsignedSessionHead.mk.injEq]
  exact ⟨⟨hscope, hid, htitle, Subtype.ext hduration, hlifecycle, htarget, hroster, hversion, hcreatedBy,
    hcreated, hupdatedBy, hupdated⟩, hdigest⟩

theorem SessionMutationPlan.of_same {a b : SessionMutationPlan D} (h : host.Same a b) :
    host.Same a.before b.before ∧ host.Same a.after b.after ∧
      a.catalogBefore = b.catalogBefore ∧ a.catalogAfter = b.catalogAfter := by
  have h := Iff.mp (Host.canonicalize_record_iff
    (by simp only [List.map_cons, List.map_nil]; decide) (by rfl)) h
  simp only [List.map_cons, List.map_nil, List.cons.injEq, canonicalize_toJson_eq_iff,
    and_true] at h
  obtain ⟨hafter, hbefore, hdigest, hversion, -⟩ := h
  have hdigest := Iff.mp (Host.canonicalize_record_iff
    (by simp only [List.map_cons, List.map_nil]; decide) (by rfl)) hdigest
  have hversion := Iff.mp (Host.canonicalize_record_iff
    (by simp only [List.map_cons, List.map_nil]; decide) (by rfl)) hversion
  simp only [List.map_cons, List.map_nil, List.cons.injEq, canonicalize_toJson_eq_iff,
    Host.same_iff_eq, and_true, Json.canonicalize_digest, Json.digest.injEq] at hdigest hversion
  exact ⟨hbefore, hafter, SessionCatalogGuard.ext hversion.2 hdigest.2,
    SessionCatalogGuard.ext hversion.1 hdigest.1⟩

end JooEvents
