import JooEvents.Intake.Agreement
import JooEvents.Intake.Replay

/-!
# Pins of the program vocabulary

A valid index has one pin for each choice that is made from the program vocabulary
(`pinProgramVocabularyAnswers_eq_ok`). The pins are ordered by a text of field and item, which
for identities is the order of the pairs (`key_lt_of_identity_lt`).

`preparedAnswers_agree` puts together what is true of answers and of the index that is built
from them. A draft is pinned in no mode of its own, and one that leaves out what is required may be
pinned in none (`unfinished_draft_not_pinned`).
-/

namespace JooEvents

open Fallible List

variable {D : Type}

theorem flatMap_lt_flatMap {α β : Type} [LinearOrder α] [LinearOrder β] {f : α → List β}
    {g : α → β} (hg : StrictMono g) :
    ∀ {as bs : List α}, (∀ a ∈ as, f a = [g a]) → (∀ b ∈ bs, f b = [g b]) → as < bs →
      as.flatMap f < bs.flatMap f
  | _, [], _, _, h => absurd h (not_lt_nil _)
  | [], b :: bs, _, hb, _ => by
    rw [flatMap_nil, flatMap_cons, hb b mem_cons_self]
    exact nil_lt_cons _ _
  | a :: as, b :: bs, ha, hb, h => by
    rw [flatMap_cons, flatMap_cons, ha a mem_cons_self, hb b mem_cons_self]
    rcases cons_lt_cons_iff.mp h with hab | ⟨rfl, hab⟩
    · exact cons_lt_cons_iff.mpr (.inl (hg hab))
    · exact cons_lt_cons_iff.mpr (.inr ⟨rfl, flatMap_lt_flatMap hg
        (fun c hc => ha c (mem_cons_of_mem _ hc)) (fun c hc => hb c (mem_cons_of_mem _ hc)) hab⟩)

theorem textLt_of_ascii {s t : String} (hs : isAscii s = true) (ht : isAscii t = true)
    (h : s.toList < t.toList) : textLt s t := by
  have hunits : ∀ {u : String}, isAscii u = true → ∀ c ∈ u.toList,
      Json.utf16Units c = [c.val.toNat] := fun {u} hu c hc => by
    have hascii := all_eq_true.mp hu c hc
    rw [isAsciiChar, decide_eq_true_eq] at hascii
    exact utf16Units_of_lt (by omega)
  have hmono : StrictMono fun c : Char => c.val.toNat := fun c d hcd => hcd
  exact flatMap_lt_flatMap hmono (hunits hs) (hunits ht) h

theorem SubmissionProgramVocabularyAnswerPin.identity_ascii
    (pin : SubmissionProgramVocabularyAnswerPin) : isAscii pin.identity = true := by
  have hfield := pin.fieldId.ascii
  have hitem := pin.itemId.ascii
  rw [isAscii] at hfield hitem
  rw [isAscii, identity, String.toList_append, String.toList_append, all_append, all_append,
    hfield, hitem]
  decide

theorem identity_lt_of_key_lt {a b : SubmissionProgramVocabularyAnswerPin}
    (h : toLex a.key < toLex b.key) : textLt a.identity b.identity := by
  refine textLt_of_ascii a.identity_ascii b.identity_ascii ?_
  rw [SubmissionProgramVocabularyAnswerPin.identity, SubmissionProgramVocabularyAnswerPin.identity,
    String.toList_append, String.toList_append, String.toList_append, String.toList_append]
  rcases Prod.Lex.toLex_lt_toLex.mp h with hfield | ⟨hfield, hitem⟩
  · rw [append_assoc, append_assoc]
    refine ApplicationId.append_lt_append_of_length_eq ?_ (String.lt_iff_toList_lt.mp hfield)
    rw [ApplicationId.length, ApplicationId.length]
  · rw [show a.fieldId = b.fieldId from hfield]
    exact append_left_lt (String.lt_iff_toList_lt.mp hitem)

theorem key_lt_of_identity_lt {a b : SubmissionProgramVocabularyAnswerPin}
    (h : textLt a.identity b.identity) : toLex a.key < toLex b.key := by
  rcases lt_trichotomy (toLex a.key) (toLex b.key) with hlt | heq | hgt
  · exact hlt
  · have hsame : a.identity = b.identity := by
      rw [SubmissionProgramVocabularyAnswerPin.identity,
        SubmissionProgramVocabularyAnswerPin.identity,
        show a.fieldId = b.fieldId from congrArg Prod.fst heq,
        show a.itemId = b.itemId from congrArg Prod.snd heq]
    rw [hsame] at h
    exact absurd h (lt_irrefl (codeUnits b.identity))
  · exact absurd h (lt_asymm (identity_lt_of_key_lt hgt))

theorem key_eq_of_identity_eq {a b : SubmissionProgramVocabularyAnswerPin}
    (h : a.identity = b.identity) : a.key = b.key := by
  rcases lt_trichotomy (toLex a.key) (toLex b.key) with hlt | heq | hgt
  · have hlt := identity_lt_of_key_lt hlt
    rw [h] at hlt
    exact absurd hlt (lt_irrefl (codeUnits b.identity))
  · exact heq
  · have hlt := identity_lt_of_key_lt hgt
    rw [h] at hlt
    exact absurd hlt (lt_irrefl (codeUnits b.identity))

/-! ## The pins of an index -/

/-- The choices that an answer to a field makes from the program vocabulary. -/
def vocabularyChoices (version : FormVersion D) (fieldId : ApplicationId)
    (choiceIds : List ApplicationId) : List (ApplicationId × ApplicationId) :=
  if ((version.definition.field fieldId).bind (·.vocabulary)).isSome then
    choiceIds.map fun choiceId => (fieldId, choiceId)
  else []

/-- The choices that answers make from the program vocabulary. -/
def selectedVocabularyChoices (version : FormVersion D)
    (answers : List (ApplicationAnswerInput ApplicationId)) :
    List (ApplicationId × ApplicationId) :=
  answers.flatMap fun answer => vocabularyChoices version answer.fieldId answer.content.choiceIds

section

variable {version : FormVersion D} {optionSource : ApplicationAnswerOptionSource}
  {mode : ApplicationAnswerValidationMode}

theorem pinChoice_eq_ok (field : FormFieldDefinition) {source : FieldRegistryOptionSource}
    {exposure : FormVocabularyExposure} {itemId : ApplicationId}
    (h : itemId ∈ allowedChoiceIds version.scope (.program_vocabulary source exposure)
      optionSource) :
    ∃ pin, pinChoice version.scope field source (.program_vocabulary source exposure) optionSource
      itemId = .ok pin ∧ pin.key = (field.id, itemId) := by
  obtain ⟨option, hoption, hid⟩ := mem_map.mp h
  cases hfind : (allowedVocabularyOptions version.scope (.program_vocabulary source exposure)
      optionSource).reverse.find? fun option => option.id = itemId with
  | none =>
    have hnone := find?_eq_none.mp hfind option (mem_reverse.mpr hoption)
    exact absurd hid (by simpa using hnone)
  | some item =>
    refine ⟨_, by rw [pinChoice, hfind, orRefuse_some, ok_bind]; rfl, ?_⟩
    rw [SubmissionProgramVocabularyAnswerPin.key, show item.id = itemId by
      simpa using find?_some hfind]

theorem pinChoices_eq_ok (field : FormFieldDefinition) {source : FieldRegistryOptionSource}
    {exposure : FormVocabularyExposure} :
    ∀ {choiceIds : List ApplicationId},
      (∀ choiceId ∈ choiceIds, choiceId ∈ allowedChoiceIds version.scope
        (.program_vocabulary source exposure) optionSource) →
      ∃ pins, choiceIds.mapM (pinChoice version.scope field source
        (.program_vocabulary source exposure) optionSource) = .ok pins ∧
        pins.map (·.key) = choiceIds.map fun choiceId => (field.id, choiceId)
  | [], _ => ⟨[], rfl, rfl⟩
  | choiceId :: choiceIds, h => by
    obtain ⟨pin, hpin, hkey⟩ := pinChoice_eq_ok field (h choiceId mem_cons_self)
    obtain ⟨pins, hpins, hkeys⟩ := pinChoices_eq_ok field
      fun other hother => h other (mem_cons_of_mem _ hother)
    refine ⟨pin :: pins, ?_, by rw [map_cons, map_cons, hkey, hkeys]⟩
    rw [mapM_cons, hpin, ok_bind, hpins]
    rfl

theorem choices_allowed_of_shape {scope : IntakeScope} {field : FormFieldDefinition}
    {content : AnswerIndexContent} {options : FormVersionOptions}
    (hoptions : field.shape.options = some options)
    (h : validateGovernedAnswerShape scope field content optionSource = .ok ()) :
    ∀ choiceId ∈ content.choiceIds, choiceId ∈ allowedChoiceIds scope options optionSource := by
  unfold validateGovernedAnswerShape at h
  cases content with
  | governed _ _ | checkbox _ => exact fun _ hmem => absurd hmem not_mem_nil
  | select choiceId =>
    simp only [bind_eq_ok, choicesAllowed, hoptions, require_eq_ok] at h
    obtain ⟨-, -, h⟩ := h
    exact h
  | multiselect choiceIds =>
    simp only [bind_eq_ok, choicesAllowed, hoptions, require_eq_ok] at h
    obtain ⟨-, -, -, -, h⟩ := h
    exact h

theorem pinAnswer_eq_ok {entry : ApplicationAnswerIndexEntry} {field : FormFieldDefinition}
    (hfield : version.definition.field entry.fieldId = some field)
    (hshape : validateGovernedAnswerShape version.scope field entry.content optionSource = .ok ()) :
    ∃ pins, pinAnswer version optionSource entry = .ok pins ∧
      pins.map (·.key) = vocabularyChoices version entry.fieldId entry.content.choiceIds := by
  have hid := (FormVersionDefinitionContent.mem_of_field hfield).2
  rw [pinAnswer, hfield, vocabularyChoices, hfield, Option.bind_some]
  dsimp only
  cases hoptions : field.shape.options with
  | none =>
    rw [FormFieldDefinition.vocabulary, hoptions]
    exact ⟨[], rfl, rfl⟩
  | some options =>
    cases options with
    | custom choices =>
      rw [FormFieldDefinition.vocabulary, hoptions]
      exact ⟨[], rfl, rfl⟩
    | program_vocabulary source exposure =>
      rw [FormFieldDefinition.vocabulary, hoptions, Option.isSome_some, if_pos rfl, ← hid]
      exact pinChoices_eq_ok field (choices_allowed_of_shape hoptions hshape)

theorem pinAnswers_eq_ok :
    ∀ {index : List ApplicationAnswerIndexEntry},
      (∀ entry ∈ index, ∃ field, version.definition.field entry.fieldId = some field ∧
        validateGovernedAnswerShape version.scope field entry.content optionSource = .ok ()) →
      ∃ pins, index.mapM (pinAnswer version optionSource) = .ok pins ∧
        pins.flatten.map (·.key) = index.flatMap fun entry =>
          vocabularyChoices version entry.fieldId entry.content.choiceIds
  | [], _ => ⟨[], rfl, rfl⟩
  | entry :: index, h => by
    obtain ⟨field, hfield, hshape⟩ := h entry mem_cons_self
    obtain ⟨pins, hpins, hkeys⟩ := pinAnswer_eq_ok hfield hshape
    obtain ⟨rest, hrest, hkeys'⟩ := pinAnswers_eq_ok fun other hother =>
      h other (mem_cons_of_mem _ hother)
    refine ⟨pins :: rest, ?_, by rw [flatten_cons, map_append, flatMap_cons, hkeys, hkeys']⟩
    rw [mapM_cons, hpins, ok_bind, hrest]
    rfl

end

/-! ## Answers and their index -/

section

variable {version : FormVersion D} {answers : List (ApplicationAnswerInput ApplicationId)}

theorem perm_choiceIds_entry (content : AnswerInputContent ApplicationId) (ref : ApplicationId) :
    (content.entry ref).choiceIds ~ content.choiceIds := by
  cases content with
  | multiselect choiceIds => exact perm_sortByKey id choiceIds
  | line _ _ | number _ | date _ | datetime _ | select _ | checkbox _ => exact .refl _

theorem vocabularyChoices_perm {fieldId : ApplicationId} {as bs : List ApplicationId}
    (h : as ~ bs) : vocabularyChoices version fieldId as ~ vocabularyChoices version fieldId bs := by
  unfold vocabularyChoices
  split
  · exact h.map _
  · exact .refl _

theorem perm_vocabularyChoices (refs : ApplicationId → ApplicationId) :
    ((governedIndex refs answers).flatMap fun entry =>
      vocabularyChoices version entry.fieldId entry.content.choiceIds) ~
        selectedVocabularyChoices version answers := by
  refine (perm_governedIndex.flatMap_right _).trans ?_
  rw [flatMap_map]
  exact Perm.flatMap_left _ fun answer _ =>
    vocabularyChoices_perm (perm_choiceIds_entry answer.content (refs answer.fieldId))

theorem Taken.nodup_selectedVocabularyChoices (h : Taken answers) :
    (selectedVocabularyChoices version answers).Nodup := by
  refine nodup_flatMap.mpr ⟨fun answer hanswer => ?_, ?_⟩
  · unfold vocabularyChoices
    split
    · exact (h.choices answer hanswer).map fun a b hab => congrArg Prod.snd hab
    · exact nodup_nil
  · have hfields : ∀ fieldId choiceIds, ∀ pair ∈ vocabularyChoices version fieldId choiceIds,
        pair.1 = fieldId := by
      intro fieldId choiceIds pair hpair
      unfold vocabularyChoices at hpair
      split at hpair
      · obtain ⟨choiceId, -, rfl⟩ := mem_map.mp hpair
        rfl
      · exact absurd hpair not_mem_nil
    refine (pairwise_map.mp h.fieldIds).imp fun {a b} hne pair ha hb => hne ?_
    exact (hfields _ _ pair ha).symm.trans (hfields _ _ pair hb)

theorem Taken.pinProgramVocabularyAnswers_eq_ok (h : Taken answers)
    {refs : ApplicationId → ApplicationId} {optionSource : ApplicationAnswerOptionSource}
    {mode : Option PinMode}
    (hvalid : validateGovernedAnswerIndex version (governedIndex refs answers) optionSource
      (pinnedIn mode) = .ok ()) :
    ∃ pins, pinProgramVocabularyAnswers version (governedIndex refs answers) optionSource mode =
        .ok pins ∧
      pins.map (·.key) ~ selectedVocabularyChoices version answers ∧
      pins.Pairwise fun a b => toLex a.key < toLex b.key := by
  have hshapes : ∀ entry ∈ governedIndex refs answers, ∃ field,
      version.definition.field entry.fieldId = some field ∧
        validateGovernedAnswerShape version.scope field entry.content optionSource = .ok () := by
    simp only [validateGovernedAnswerIndex, bind_eq_ok, checkEach_eq_ok, orRefuse_eq_ok] at hvalid
    obtain ⟨-, -, -, hentries, -⟩ := hvalid
    exact hentries
  obtain ⟨pins, hpins, hkeys⟩ := pinAnswers_eq_ok hshapes
  have hperm : pins.flatten.map (·.key) ~ selectedVocabularyChoices version answers := by
    rw [hkeys]
    exact perm_vocabularyChoices refs
  have hnodup : (pins.flatten.map fun pin => codeUnits pin.identity).Nodup := by
    have hdistinct := pairwise_map.mp (hperm.nodup_iff.mpr h.nodup_selectedVocabularyChoices)
    refine pairwise_map.mpr (hdistinct.imp fun {a b} hne heq => hne ?_)
    exact key_eq_of_identity_eq (codeUnits_injective heq)
  refine ⟨pins.flatten.sortByKey fun pin => codeUnits pin.identity, ?_, ?_, ?_⟩
  · rw [pinProgramVocabularyAnswers, hvalid, ok_bind, hpins, ok_bind]
    rfl
  · exact ((perm_sortByKey _ _).map _).trans hperm
  · exact (pairwise_lt_sortByKey hnodup).imp key_lt_of_identity_lt

end

/-- Whatever is pinned, in either mode, is one pin for each choice made from the program vocabulary,
in the order of fields and items. -/
theorem Taken.pins_of_eq_ok {version : FormVersion D}
    {answers : List (ApplicationAnswerInput ApplicationId)} (h : Taken answers)
    {refs : ApplicationId → ApplicationId} {optionSource : ApplicationAnswerOptionSource}
    {mode : Option PinMode} {pins : List SubmissionProgramVocabularyAnswerPin}
    (hpins : pinProgramVocabularyAnswers version (governedIndex refs answers) optionSource mode =
      .ok pins) :
    pins.map (·.key) ~ selectedVocabularyChoices version answers ∧
      pins.Pairwise fun a b => toLex a.key < toLex b.key := by
  have hvalid : validateGovernedAnswerIndex version (governedIndex refs answers) optionSource
      (pinnedIn mode) = .ok () := by
    rw [pinProgramVocabularyAnswers, bind_eq_ok] at hpins
    exact hpins.choose_spec.1
  obtain ⟨pins', hpins', hkeys, hsorted⟩ := h.pinProgramVocabularyAnswers_eq_ok hvalid
  obtain rfl := Except.ok.inj (hpins.symm.trans hpins')
  exact ⟨hkeys, hsorted⟩

/-- What prepared answers are finalized to is the index of the answers that were taken, and valid in
the same mode. -/
theorem governedIndex_of_finalize {host : AnswerHost D}
    {raw : List (ApplicationAnswerInput String)} {version : FormVersion D}
    {optionSource : ApplicationAnswerOptionSource} {mode : ApplicationAnswerValidationMode}
    {owner : ApplicationAnswerOwner D} {prepared : PreparedApplicationAnswers D}
    (hprepare : prepareApplicationAnswers host raw version optionSource mode owner = .ok prepared)
    {Receipt : Type} {openReceipt : Receipt → PreparedApplicationAnswerPayload D → Option String}
    {issued : Bool} {adoptions : List Receipt} {index : List ApplicationAnswerIndexEntry}
    (hfinalize : finalizeGovernedAnswerIndex openReceipt issued prepared adoptions = .ok index) :
    ∃ answers refs, takenAnswers host raw = some answers ∧ Taken answers ∧
      prepared.answeredFieldIds = (answers.map (·.fieldId)).sortByKey id ∧
      index = governedIndex refs answers ∧
      validateGovernedAnswerIndex version index optionSource mode = .ok () := by
  obtain ⟨answers, hanswers, hprepared⟩ := prepareApplicationAnswers_eq_ok hprepare
  have htaken := Taken.of_schema hanswers
  obtain ⟨hshapes, heffective⟩ := validateTakenAnswers_eq_ok.mp hprepared.valid
  obtain ⟨refs, rfl⟩ := finalizeGovernedAnswerIndex_eq_ok htaken hprepared hfinalize
  refine ⟨answers, refs, hanswers, htaken, hprepared.fieldIds, rfl, ?_⟩
  rw [← refusal_eq_none_iff, htaken.refusal_validateGovernedAnswerIndex hshapes refs mode,
    heffective]
  rfl

/-- Answers that were prepared have a valid index, of the fields that were answered. In the mode of
a submission or of an entry it is pinned, and what is pinned, of a draft too, is one pin for each
choice made from the program vocabulary. Answers that are refused for their effective state have an
index that is refused with the same code. -/
theorem preparedAnswers_agree (host : AnswerHost D) (raw : List (ApplicationAnswerInput String))
    (version : FormVersion D) (optionSource : ApplicationAnswerOptionSource)
    (mode : ApplicationAnswerValidationMode) (owner : ApplicationAnswerOwner D) :
    (∀ prepared, prepareApplicationAnswers host raw version optionSource mode owner =
        .ok prepared →
      ∀ (Receipt : Type)
        (openReceipt : Receipt → PreparedApplicationAnswerPayload D → Option String)
        (issued : Bool) (adoptions : List Receipt) (index : List ApplicationAnswerIndexEntry),
        finalizeGovernedAnswerIndex openReceipt issued prepared adoptions = .ok index →
          validateGovernedAnswerIndex version index optionSource mode = .ok () ∧
            index.map (·.fieldId) = prepared.answeredFieldIds ∧
            ∃ answers, takenAnswers host raw = some answers ∧
              (∀ pinMode, pinnedIn pinMode = mode → ∃ pins,
                pinProgramVocabularyAnswers version index optionSource pinMode = .ok pins) ∧
              ∀ pinMode pins,
                pinProgramVocabularyAnswers version index optionSource pinMode = .ok pins →
                  pins.map (·.key) ~ selectedVocabularyChoices version answers ∧
                  pins.Pairwise fun a b => toLex a.key < toLex b.key) ∧
    ∀ error, prepareApplicationAnswers host raw version optionSource mode owner =
        .error (.answer error) → error.code.isEffective = true →
      ∃ answers, takenAnswers host raw = some answers ∧
        ∀ refs, ∃ error', validateGovernedAnswerIndex version (governedIndex refs answers)
          optionSource mode = .error error' ∧ error'.code = error.code := by
  refine ⟨fun prepared hprepare Receipt openReceipt issued adoptions index hfinalize => ?_,
    fun error hprepare hcode => ?_⟩
  · obtain ⟨answers, refs, hanswers, htaken, hfieldIds, rfl, hvalid⟩ :=
      governedIndex_of_finalize hprepare hfinalize
    have hpinned : ∀ pinMode, pinnedIn pinMode = mode → ∃ pins, pinProgramVocabularyAnswers version
        (governedIndex refs answers) optionSource pinMode = .ok pins := by
      rintro pinMode rfl
      obtain ⟨pins, hpins, -⟩ := htaken.pinProgramVocabularyAnswers_eq_ok hvalid
      exact ⟨pins, hpins⟩
    refine ⟨hvalid, ?_, answers, hanswers, hpinned, fun _ _ hpins => htaken.pins_of_eq_ok hpins⟩
    rw [hfieldIds]
    have hindex : ((governedIndex refs answers).map (·.fieldId)).Pairwise fun a b => id a < id b :=
      pairwise_map.mpr (pairwise_lt_sortByKey htaken.entries_nodup)
    have hfields : ((answers.map (·.fieldId)).sortByKey id).Pairwise fun a b => id a < id b :=
      pairwise_lt_sortByKey (by rw [map_id]; exact htaken.fieldIds)
    refine eq_of_perm_of_pairwise_lt hindex hfields ?_
    refine (perm_governedIndex.map _).trans ?_
    rw [map_fieldId_entries]
    exact (perm_sortByKey id _).symm
  · obtain ⟨answers, hanswers, hrefused⟩ := prepareApplicationAnswers_eq_error hprepare
    have htaken := Taken.of_schema hanswers
    obtain ⟨hshapes, heffective⟩ := of_validateTakenAnswers_eq_error hrefused hcode
    refine ⟨answers, hanswers, fun refs => ?_⟩
    have hsame := htaken.refusal_validateGovernedAnswerIndex hshapes refs mode
    rw [heffective] at hsame
    cases hindex : validateGovernedAnswerIndex version (governedIndex refs answers) optionSource
        mode with
    | ok _ =>
      rw [hindex] at hsame
      cases hsame
    | error error' =>
      rw [hindex] at hsame
      exact ⟨error', rfl, Option.some.inj hsame⟩

namespace ApplicationExample

def answerHost : AnswerHost SymbolicDigest where
  toHost := SymbolicDigest.host
  url _ := none
  isoDatetime value := (IsoDatetime.read value).isSome

def owner : ApplicationAnswerOwner SymbolicDigest := ⟨.ofNat 9, .ofNat 10, .null⟩

theorem isFieldKey_topics : isDottedIdentifier "topics" = true ∧ textLength "topics" ≤ 160 := by
  decide

theorem isFieldKey_recording :
    isDottedIdentifier "recording" = true ∧ textLength "recording" ≤ 160 := by decide

/-- The form asks for tracks and for consent to a recording too. -/
def topicsVersion : FormVersion SymbolicDigest :=
  { version with
    definition :=
      { version.definition with
        fields := version.definition.fields ++
          [{ id := .ofNat 17
             sourceFieldVersion := .one
             key := ⟨"topics", isFieldKey_topics⟩
             mapsTo := none
             purpose := .ordinary
             answerOwner := .talk
             group := .talk
             constraints := { removal := .allowed, applyVisibility := .editable }
             label := "Topics"
             help := none
             required := false
             initiallyVisible := true
             position := 1
             shape := .multiselect (.program_vocabulary .tracks .all_active) },
           { id := .ofNat 18
             sourceFieldVersion := .one
             key := ⟨"recording", isFieldKey_recording⟩
             mapsTo := none
             purpose := .consent ⟨"recording", isFieldKey_recording⟩
             answerOwner := .person
             group := .consent
             constraints := { removal := .allowed, applyVisibility := .editable }
             label := "Recording"
             help := none
             required := false
             initiallyVisible := true
             position := 2
             shape := .checkbox }] } }

/-- Two tracks that are active, and one that is not. -/
def tracks : ApplicationAnswerOptionSource := fun _ _ =>
  [⟨.ofNat 21, "Compilers", .one, .active⟩, ⟨.ofNat 20, "Applied AI", second, .active⟩,
    ⟨.ofNat 22, "Perl", .one, .retired⟩]

def topicAnswers : List (ApplicationAnswerInput String) :=
  [⟨(ApplicationId.ofNat 5).val, .line .email " ada@example.org"⟩,
    ⟨(ApplicationId.ofNat 17).val, .multiselect [(ApplicationId.ofNat 21).val,
      (ApplicationId.ofNat 20).val]⟩]

/-- Consent is given before the address is. -/
def unfinishedAnswers : List (ApplicationAnswerInput String) :=
  [⟨(ApplicationId.ofNat 18).val, .checkbox true⟩]

/-- Prepare and finalize answers. Every payload is stored under one reference. -/
def finalized (raw : List (ApplicationAnswerInput String)) (mode : ApplicationAnswerValidationMode)
    (adoptions : List Unit) : Except PreparationError (List ApplicationAnswerIndexEntry) := do
  let prepared ← prepareApplicationAnswers answerHost raw topicsVersion tracks mode owner
  finalizeGovernedAnswerIndex (fun _ _ => some (ApplicationId.ofNat 8).val) true prepared adoptions

theorem topicAnswers_finalized : (finalized topicAnswers .submit [()]).toBool = true := by
  decide +kernel

theorem topicAnswers_choices :
    (takenAnswers answerHost topicAnswers).map (selectedVocabularyChoices topicsVersion) =
      some [(.ofNat 17, .ofNat 21), (.ofNat 17, .ofNat 20)] := by
  decide +kernel

/-- The code that an answer is refused with. -/
def refusalCode {α : Type} : Except PreparationError α → Option ApplicationAnswerErrorCode
  | .error (.answer error) => some error.code
  | .error .schema | .ok _ => none

theorem exists_of_refusalCode {α : Type} {x : Except PreparationError α}
    {code : ApplicationAnswerErrorCode} (h : refusalCode x = some code) :
    ∃ error, x = .error (.answer error) ∧ error.code = code := by
  cases x with
  | ok a => cases h
  | error e =>
    cases e with
    | schema => cases h
    | answer error => exact ⟨error, rfl, Option.some.inj h⟩

theorem unfinishedAnswers_refused :
    refusalCode (prepareApplicationAnswers answerHost unfinishedAnswers topicsVersion tracks
      .submit owner) = some .required_answer_missing := by
  decide +kernel

theorem unfinishedAnswers_finalized : (finalized unfinishedAnswers .draft []).toBool = true := by
  decide +kernel

/-- Pin what a draft of the answers is finalized to. -/
def pinnedDraft (raw : List (ApplicationAnswerInput String)) (mode : Option PinMode) :
    Except PreparationError (List SubmissionProgramVocabularyAnswerPin) := do
  let index ← finalized raw .draft []
  (pinProgramVocabularyAnswers topicsVersion index tracks mode).mapError .answer

theorem unfinishedAnswers_pinnedDraft :
    refusalCode (pinnedDraft unfinishedAnswers none) = some .required_answer_missing ∧
      refusalCode (pinnedDraft unfinishedAnswers (some .direct_entry)) =
        some .consent_not_enterable := by
  decide +kernel

end ApplicationExample

open ApplicationExample in
/-- Two tracks are chosen and pinned. Answers without an address are refused as their index is. -/
theorem preparedAnswers_agree_topics :
    (∃ prepared index pins,
      prepareApplicationAnswers answerHost topicAnswers topicsVersion tracks .submit owner =
        .ok prepared ∧
      validateGovernedAnswerIndex topicsVersion index tracks .submit = .ok () ∧
      index.map (·.fieldId) = prepared.answeredFieldIds ∧
      pinProgramVocabularyAnswers topicsVersion index tracks none = .ok pins ∧
      pins.map (·.key) ~ [(.ofNat 17, .ofNat 21), (.ofNat 17, .ofNat 20)] ∧
      pins.Pairwise fun a b => toLex a.key < toLex b.key) ∧
    ∃ answers, takenAnswers answerHost unfinishedAnswers = some answers ∧
      ∀ refs, ∃ error, validateGovernedAnswerIndex topicsVersion (governedIndex refs answers)
        tracks .submit = .error error ∧ error.code = .required_answer_missing := by
  constructor
  · obtain ⟨index, hindex⟩ := exists_of_toBool topicAnswers_finalized
    obtain ⟨prepared, hprepared, hfinalized⟩ := bind_eq_ok.mp hindex
    obtain ⟨hvalid, hfields, answers, hanswers, hpinned, hpins⟩ :=
      (preparedAnswers_agree answerHost topicAnswers topicsVersion tracks .submit owner).1 prepared
        hprepared Unit _ true [()] index hfinalized
    obtain ⟨pins, hpin⟩ := hpinned none rfl
    have hchoices := topicAnswers_choices
    rw [hanswers, Option.map_some, Option.some.injEq] at hchoices
    obtain ⟨hkeys, hsorted⟩ := hpins none pins hpin
    exact ⟨prepared, index, pins, hprepared, hvalid, hfields, hpin, hchoices ▸ hkeys, hsorted⟩
  · obtain ⟨error, hrefused, hcode⟩ := exists_of_refusalCode unfinishedAnswers_refused
    have hagree := (preparedAnswers_agree answerHost unfinishedAnswers topicsVersion tracks .submit
      owner).2 error hrefused (by rw [hcode]; rfl)
    rwa [hcode] at hagree

open ApplicationExample in
/-- A draft that leaves out what is required is prepared and its index is valid as a draft, but
there is no mode that it can be pinned in. -/
theorem unfinished_draft_not_pinned :
    ∃ prepared index,
      prepareApplicationAnswers answerHost unfinishedAnswers topicsVersion tracks .draft owner =
        .ok prepared ∧
      finalizeGovernedAnswerIndex (fun (_ : Unit) _ => some (ApplicationId.ofNat 8).val) true
        prepared [] = .ok index ∧
      validateGovernedAnswerIndex topicsVersion index tracks .draft = .ok () ∧
      ∀ pinMode, ∃ error, pinProgramVocabularyAnswers topicsVersion index tracks pinMode =
        .error error := by
  obtain ⟨index, hindex⟩ := exists_of_toBool unfinishedAnswers_finalized
  have hrefused : ∀ pinMode code, refusalCode (pinnedDraft unfinishedAnswers pinMode) = some code →
      ∃ error, pinProgramVocabularyAnswers topicsVersion index tracks pinMode = .error error := by
    intro pinMode code hcode
    rw [pinnedDraft, hindex, ok_bind] at hcode
    cases hpin : pinProgramVocabularyAnswers topicsVersion index tracks pinMode with
    | ok pins =>
      rw [hpin] at hcode
      cases hcode
    | error error => exact ⟨error, rfl⟩
  obtain ⟨hsubmit, hentry⟩ := unfinishedAnswers_pinnedDraft
  obtain ⟨prepared, hprepared, hfinalized⟩ := bind_eq_ok.mp hindex
  refine ⟨prepared, index, hprepared, hfinalized, ?_, fun pinMode => ?_⟩
  · obtain ⟨_, _, -, -, -, -, hvalid⟩ := governedIndex_of_finalize hprepared hfinalized
    exact hvalid
  · rcases pinMode with _ | _ | _
    · exact hrefused none _ hsubmit
    · exact hrefused none _ hsubmit
    · exact hrefused _ _ hentry

end JooEvents
