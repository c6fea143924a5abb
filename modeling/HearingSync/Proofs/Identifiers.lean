import HearingSync.Proofs.Case.Hearings
import HearingSync.Proofs.Case.Padding
import HearingSync.Proofs.Json.Rereading
import HearingSync.Proofs.Store.Memory
import HearingSync.Proofs.VenueTable
/-!
Ids and the texts that stand for them. Main statement: whichever way a text comes in, the id is what
is left of it without the white space around it, and a text of which nothing is left is refused. So
two texts stand for one id exactly when they differ in nothing but that white space, and by their
ids hearings are listed, cases filed and venues found.
-/

namespace HearingSync

open Text (IsTight Pads SameWithin)

namespace Identifier

variable {k : IdentifierKind} {s t : String} {a b : Identifier k}

theorem isTight (a : Identifier k) : IsTight a.text := by
  have htight : Text.trim a.text ≠ "" → IsTight (Text.trim a.text) := Text.isTight_trim
  rw [a.trimmed] at htight
  exact htight a.nonempty

theorem ofText?_eq_some_iff_pads : ofText? s = some a ↔ Pads s a.text :=
  ofText?_eq_some_iff.trans (Text.trim_eq_iff a.isTight)

theorem ofText?_eq_none_iff_isAllBlank :
    (ofText? s : Option (Identifier k)) = none ↔ Text.isAllBlank s = true :=
  ofText?_eq_none_iff.trans Text.trim_eq_empty_iff

theorem eq_iff_sameWithin (ha : ofText? s = some a) (hb : ofText? t = some b) :
    a = b ↔ SameWithin s t := by
  rw [Text.sameWithin_iff, ofText?_eq_some_iff.mp ha, ofText?_eq_some_iff.mp hb]
  exact ⟨congrArg text, ext⟩

theorem decode_string (s : String) : (decode (.string s) : Except DecodeError (Identifier k)) =
    (ofText? s).elim (.error (.blankIdentifier k)) .ok := by
  unfold decode Json.decodeIdentifier
  cases h : (ofText? s : Option (Identifier k)) <;> simp [h]

theorem decode_string_eq_ok_iff : decode (.string s) = .ok a ↔ ofText? s = some a := by
  rw [decode_string]
  cases (ofText? s : Option (Identifier k)) <;> simp

theorem decode_string_eq_error_iff {e : DecodeError} :
    (decode (.string s) : Except DecodeError (Identifier k)) = .error e ↔
      (ofText? s : Option (Identifier k)) = none ∧ e = .blankIdentifier k := by
  rw [decode_string]
  cases (ofText? s : Option (Identifier k)) <;> simp [eq_comm]

theorem exists_of_decode {j : Json} (h : decode j = .ok a) :
    ∃ s, j = .string s ∧ ofText? s = some a := by
  cases j with
  | string s => exact ⟨s, rfl, decode_string_eq_ok_iff.mp h⟩
  | _ => cases h

/-- How a text goes with the ids of a kind. -/
structure IsCanonical (k : IdentifierKind) (s : String) : Prop where
  blank : (ofText? s : Option (Identifier k)) = none ↔ Text.isAllBlank s = true
  stands : ∀ a : Identifier k, ofText? s = some a ↔ Pads s a.text
  tight : ∀ a : Identifier k, ofText? s = some a → a.text ≠ "" ∧ IsTight a.text
  again : ∀ a : Identifier k, ofText? s = some a → ofText? a.text = some a
  decoded : ∀ a : Identifier k, decode (.string s) = .ok a ↔ ofText? s = some a
  refused : ∀ e, (decode (.string s) : Except DecodeError (Identifier k)) = .error e ↔
    Text.isAllBlank s = true ∧ e = .blankIdentifier k
  encoded : ∀ a : Identifier k, decode (.string s) = .ok a → a.encode = .string (Text.trim s)

theorem isCanonical (k : IdentifierKind) (s : String) : IsCanonical k s where
  blank := ofText?_eq_none_iff_isAllBlank
  stands _ := ofText?_eq_some_iff_pads
  tight a _ := ⟨a.nonempty, a.isTight⟩
  again a _ := ofText?_text a
  decoded _ := decode_string_eq_ok_iff
  refused _ := decode_string_eq_error_iff.trans (and_congr_left' ofText?_eq_none_iff_isAllBlank)
  encoded _ h := congrArg Json.string (text_of_ofText? (decode_string_eq_ok_iff.mp h))

end Identifier

def Json.SameText (x y : Option Json) : Prop :=
  ∃ s t, x = some (.string s) ∧ y = some (.string t) ∧ SameWithin s t

namespace Record

variable {α β : Type} {k : IdentifierKind} {look look' : String → Option Json} {name : String}
  {a b : Identifier k}

def Builds (P : (String → Option Json) → α → Prop) (r : Record α) : Prop :=
  ∀ look a, r.build look = .ok a → P look a

theorem Builds.const {P : (String → Option Json) → α → Prop} {a : α} (h : ∀ look, P look a) :
    (const a).Builds P := by
  intro look b hb
  rw [← Except.ok.inj hb]
  exact h look

theorem Builds.app {f : Record (α → β)} {x : Record α} {P : (String → Option Json) → β → Prop}
    (hf : f.Builds fun look g => ∀ a, x.build look = .ok a → P look (g a)) :
    (f.app x).Builds P := by
  intro look b hb
  obtain ⟨g, a, hg, ha, rfl⟩ := exists_of_app_build hb
  exact hf look g hg a ha

def Names (name : String) (id : α → Identifier k) (look : String → Option Json) (a : α) : Prop :=
  ∃ s, look name = some (.string s) ∧ Identifier.ofText? s = some (id a)

theorem exists_of_required_id (h : (required name Identifier.decode).build look = .ok a) :
    ∃ s, look name = some (.string s) ∧ Identifier.ofText? s = some a := by
  obtain ⟨j, hj, hread⟩ := exists_of_required h
  obtain ⟨s, rfl, hs⟩ := Identifier.exists_of_decode hread
  exact ⟨s, hj, hs⟩

def Identifies (r : Record α) (name : String) (id : α → Identifier k) : Prop :=
  ∀ j j' a a', r.decode j = .ok a → r.decode j' = .ok a' →
    (id a = id a' ↔ Json.SameText (r.valueIn j name) (r.valueIn j' name))

theorem identifies_of_names {r : Record α} {id : α → Identifier k} (h : r.Builds (Names name id)) :
    r.Identifies name id := by
  intro j j' a a' ha ha'
  obtain ⟨s, hs, hid⟩ := h _ _ (build_of_decode ha)
  obtain ⟨t, ht, hid'⟩ := h _ _ (build_of_decode ha')
  rw [Identifier.eq_iff_sameWithin hid hid']
  constructor
  · intro hsame
    exact ⟨s, t, hs, ht, hsame⟩
  · rintro ⟨s', t', hs', ht', hsame⟩
    cases hs.symm.trans hs'
    cases ht.symm.trans ht'
    exact hsame

end Record

theorem HearingMessage.identifies_case : record.Identifies "caseId" caseId := by
  apply Record.identifies_of_names
  iterate 5 apply Record.Builds.app
  apply Record.Builds.const
  intro look serviceCode _ caseId hcase
  intros
  exact Record.exists_of_required_id hcase

theorem HearingMessage.identifies_hearing : record.Identifies "hearingId" hearingId := by
  apply Record.identifies_of_names
  iterate 5 apply Record.Builds.app
  apply Record.Builds.const
  intro look serviceCode _ caseId _ hearingId hhearing
  intros
  exact Record.exists_of_required_id hhearing

theorem HearingDetail.identifies : record.Identifies "hearing_id" hearingId := by
  apply Record.identifies_of_names
  iterate 5 apply Record.Builds.app
  apply Record.Builds.const
  intro look hearingId hhearing
  intros
  exact Record.exists_of_required_id hhearing

theorem CaseData.identifies : record.Identifies "caseId" caseId := by
  apply Record.identifies_of_names
  iterate 5 apply Record.Builds.app
  apply Record.Builds.const
  intro look caseId hcase
  intros
  exact Record.exists_of_required_id hcase

theorem Hearing.identifies : record.Identifies "hearingId" hearingId := by
  apply Record.identifies_of_names
  iterate 10 apply Record.Builds.app
  apply Record.Builds.const
  intro look hearingId hhearing
  intros
  exact Record.exists_of_required_id hhearing

namespace Hearing

variable {s t : String} {id l : HearingId} {f g : Hearing → Hearing} {hearings : List Hearing}

/-- Hearings whose texts differ in white space alone have one entry. -/
theorem find?_upsert_text (hf : KeepsId f) (hid : Identifier.ofText? s = some id)
    (hl : Identifier.ofText? t = some l) :
    find? (upsert id f hearings) l =
      if SameWithin s t then some (f ((find? hearings id).getD { hearingId := id }))
      else find? hearings l := by
  rw [find?_upsert hf]
  exact if_congr (eq_comm.trans (Identifier.eq_iff_sameWithin hid hl)) rfl rfl

theorem ids_upsert_again (hf : KeepsId f) (hg : KeepsId g) :
    ids (upsert id g (upsert id f hearings)) = ids (upsert id f hearings) := by
  rw [ids_upsert hg, ids_upsert hf]
  exact if_pos (mem_withId (ids hearings) id)

end Hearing

theorem MemoryStore.get?_insert_text {s t : String} {store : MemoryStore} {data : CaseData}
    {id : CaseId} (hdata : Identifier.ofText? s = some data.caseId)
    (hid : Identifier.ofText? t = some id) :
    (store.insert data).get? id = if SameWithin s t then some ⟨data, 1⟩ else store.get? id := by
  by_cases h : SameWithin s t
  · obtain rfl := (Identifier.eq_iff_sameWithin hdata hid).mpr h
    rw [if_pos h, get?_insert_self]
  · have hne : id ≠ data.caseId := by
      rintro rfl
      exact h ((Identifier.eq_iff_sameWithin hdata hid).mp rfl)
    rw [if_neg h, get?_insert_ne hne]

theorem VenueTable.find?_ofRecords_text {t : String} {records : List VenueRecord}
    {r : VenueRecord} {code : VenueCode} (hcode : Identifier.ofText? t = some code) :
    (ofRecords (records ++ [r])).find? code =
      if r.active = true ∧ SameWithin r.code t then some r.venue
      else (ofRecords records).find? code := by
  rw [ofRecords_concat, find?_add]
  refine if_congr (and_congr_right' ?_) rfl rfl
  rw [Text.sameWithin_iff, Identifier.ofText?_eq_some_iff.mp hcode]

/-- Documents that differ in nothing but the white space around their ids are read as the same, or
they are refused for the same reason. -/
structure PaddingOverlooked : Prop where
  message : ∀ j j', HearingMessage.unpad j = HearingMessage.unpad j' →
    HearingMessage.decode j = HearingMessage.decode j'
  detail : ∀ j j', HearingDetail.unpad j = HearingDetail.unpad j' →
    HearingDetail.decode j = HearingDetail.decode j'
  case : ∀ j j', CaseData.unpad j = CaseData.unpad j' → CaseData.decode j = CaseData.decode j'
  snapshot : ∀ j j', CaseSnapshot.unpad j = CaseSnapshot.unpad j' →
    CaseSnapshot.decode j = CaseSnapshot.decode j'
  answer : ∀ requested j j', HearingAnswer.unpad j = HearingAnswer.unpad j' →
    (HearingAnswer.decode j).map (·.detail requested) =
      (HearingAnswer.decode j').map (·.detail requested)

theorem paddingOverlooked : PaddingOverlooked where
  message _ _ h := HearingMessage.overlooks.decode_congr h
  detail _ _ h := HearingDetail.overlooks.decode_congr h
  case _ _ h := CaseData.overlooks.decode_congr h
  snapshot _ _ h := CaseSnapshot.overlooks.decode_congr h
  answer requested _ _ h := (HearingAnswer.overlooks requested).map_congr h

/-- Whatever else two documents say, their ids are one exactly when the texts are, but for the white
space around them. -/
structure IdsOfTexts : Prop where
  case : HearingMessage.record.Identifies "caseId" HearingMessage.caseId
  hearing : HearingMessage.record.Identifies "hearingId" HearingMessage.hearingId
  detail : HearingDetail.record.Identifies "hearing_id" HearingDetail.hearingId
  caseData : CaseData.record.Identifies "caseId" CaseData.caseId
  entry : Hearing.record.Identifies "hearingId" Hearing.hearingId

theorem idsOfTexts : IdsOfTexts where
  case := HearingMessage.identifies_case
  hearing := HearingMessage.identifies_hearing
  detail := HearingDetail.identifies
  caseData := CaseData.identifies
  entry := Hearing.identifies

/-- What is listed, filed or entered under one text is found under the other exactly when they
differ in nothing but the white space around them. -/
structure KeyedAlike (s t : String) : Prop where
  listed : ∀ (id l : HearingId) (f : Hearing → Hearing) (hearings : List Hearing),
    Identifier.ofText? s = some id → Identifier.ofText? t = some l → Hearing.KeepsId f →
    Hearing.find? (Hearing.upsert id f hearings) l =
      if SameWithin s t then some (f ((Hearing.find? hearings id).getD { hearingId := id }))
      else Hearing.find? hearings l
  listedOnce : ∀ (id l : HearingId) (f g : Hearing → Hearing) (hearings : List Hearing),
    Identifier.ofText? s = some id → Identifier.ofText? t = some l → Hearing.KeepsId f →
    Hearing.KeepsId g → SameWithin s t →
    Hearing.ids (Hearing.upsert l g (Hearing.upsert id f hearings)) =
      Hearing.ids (Hearing.upsert id f hearings)
  filed : ∀ (store : MemoryStore) (data : CaseData) (id : CaseId),
    Identifier.ofText? s = some data.caseId → Identifier.ofText? t = some id →
    (store.insert data).get? id = if SameWithin s t then some ⟨data, 1⟩ else store.get? id
  entered : ∀ (records : List VenueRecord) (r : VenueRecord) (code : VenueCode),
    r.code = s → Identifier.ofText? t = some code →
    (VenueTable.ofRecords (records ++ [r])).find? code =
      if r.active = true ∧ SameWithin s t then some r.venue
      else (VenueTable.ofRecords records).find? code

theorem keyedAlike (s t : String) : KeyedAlike s t where
  listed _ _ _ _ hid hl hf := Hearing.find?_upsert_text hf hid hl
  listedOnce id l f g hearings hid hl hf hg h := by
    obtain rfl := (Identifier.eq_iff_sameWithin hid hl).mpr h
    exact Hearing.ids_upsert_again hf hg
  filed _ _ _ hdata hid := MemoryStore.get?_insert_text hdata hid
  entered records r code hr hcode := by
    subst hr
    exact VenueTable.find?_ofRecords_text hcode

/-- An id is what is left of a text without the white space around it; blank texts stand for none.
It is read of a string in just these cases and written as that text. So documents whose ids differ
in such white space are read alike, and what is listed, filed or entered under an id is found. -/
theorem identifiers_canonical :
    (∀ (k : IdentifierKind) (s : String), Identifier.IsCanonical k s) ∧ PaddingOverlooked ∧
    IdsOfTexts ∧ ∀ s t, KeyedAlike s t :=
  ⟨Identifier.isCanonical, paddingOverlooked, idsOfTexts, keyedAlike⟩

section Padded

def messageOf (caseId hearingId : String) : Json :=
  .object [("hmctsServiceCode", .string "BBA3"), ("caseId", .string caseId),
    ("hearingId", .string hearingId), ("reportedStatus", .string "LISTED")]

def paddedCase : CaseData := { caseId := ⟨"8123", by decide, by decide⟩, state := .hearing }

def paddedHearing : HearingId := ⟨"6651", by decide, by decide⟩

theorem unpad_messageOf (caseId hearingId : String) :
    HearingMessage.unpad (messageOf caseId hearingId) =
      messageOf (Text.trim caseId) (Text.trim hearingId) := rfl

theorem decode_messageOf :
    HearingMessage.decode (messageOf "\t8123" "6651 ") =
      .ok ⟨"BBA3", paddedCase.caseId, paddedHearing, .listed, none⟩ := by
  rfl

theorem identifiers_canonical_padded :
    HearingMessage.decode (messageOf "8123" "\u20036651\n") =
      .ok ⟨"BBA3", paddedCase.caseId, paddedHearing, .listed, none⟩ ∧
    (MemoryStore.insert {} paddedCase).get? paddedCase.caseId = some ⟨paddedCase, 1⟩ ∧
    Hearing.find? (Hearing.upsert paddedHearing id []) paddedHearing =
      some { hearingId := paddedHearing } := by
  obtain ⟨-, hpadding, -, hkeyed⟩ := identifiers_canonical
  have hsame : HearingMessage.unpad (messageOf "8123" "\u20036651\n") =
      HearingMessage.unpad (messageOf "\t8123" "6651 ") := by
    rw [unpad_messageOf, unpad_messageOf]
    have htrim : Text.trim "\u20036651\n" = Text.trim "6651 " := by decide
    have htrim' : Text.trim "8123" = Text.trim "\t8123" := by decide
    rw [htrim, htrim']
  refine ⟨(hpadding.message _ _ hsame).trans decode_messageOf, ?_, ?_⟩
  · rw [(hkeyed "\t8123" "8123").filed {} paddedCase paddedCase.caseId (by decide) (by decide),
      if_pos (by decide)]
  · rw [(hkeyed "6651 " "\u20036651\n").listed paddedHearing paddedHearing id [] (by decide)
      (by decide) fun _ => rfl, if_pos (by decide)]
    rfl

end Padded

end HearingSync
