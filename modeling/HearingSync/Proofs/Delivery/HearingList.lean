import HearingSync.Proofs.Delivery.Projection
/-!
The list of hearings of a case. A commit touches one place of it: the first entry of the hearing
that the message is about, or the end, and only a listing adds an entry there. Main statement: after
any messages the ids on file are those that were there before, in their places, and then the others
that were listed, each once, in the order in which they were first listed.
-/

namespace HearingSync

/-- What may become of the hearings of a case in one commit for the detail. -/
structure HearingDetail.Changes (detail : HearingDetail) (before after : List Hearing) : Prop where
  others : ∀ k, k ≠ Hearing.place before detail.hearingId → after[k]? = before[k]?
  ids : Hearing.ids after = Hearing.ids before ∨
    (detail.disposition = .listedUpdate ∧ detail.hearingId ∉ Hearing.ids before ∧
      Hearing.ids after = Hearing.ids before ++ [detail.hearingId])

namespace Revision

variable {detail : HearingDetail} {r : Revision} {hearings : List Hearing}

theorem ids_onHearings (h : detail.CallsFor r) (hearings : List Hearing) :
    Hearing.ids (r.onHearings detail hearings) =
      if detail.disposition = .listedUpdate then
        Hearing.withId (Hearing.ids hearings) detail.hearingId
      else Hearing.ids hearings := by
  cases h with
  | list found now hd hs =>
    rw [if_pos hd]
    exact Hearing.ids_upsert edit_keepsId
  | cancelledInListing hd =>
    rw [if_neg (by rw [hd]; nofun)]
    exact Hearing.ids_modifyFirst edit_keepsId
  | ended hd =>
    rw [if_neg (by rcases hd with hd | hd <;> rw [hd] <;> nofun)]
    exact Hearing.ids_modifyFirst edit_keepsId

theorem changes_onHearings (h : detail.CallsFor r) (hearings : List Hearing) :
    detail.Changes hearings (r.onHearings detail hearings) := by
  refine ⟨fun k hk => getElem?_onHearings hk, ?_⟩
  have hids := ids_onHearings h hearings
  by_cases hd : detail.disposition = .listedUpdate
  · rw [if_pos hd, Hearing.withId] at hids
    by_cases hmem : detail.hearingId ∈ Hearing.ids hearings
    · rw [if_pos hmem] at hids
      exact .inl hids
    · rw [if_neg hmem] at hids
      exact .inr ⟨hd, hmem, hids⟩
  · rw [if_neg hd] at hids
    exact .inl hids

end Revision

namespace Delivery

variable {d : Delivery} {s : MemoryStore} {id : CaseId} {a : CaseSnapshot}

def listed? (d : Delivery) (id : CaseId) (s : MemoryStore) : Option HearingId :=
  match d.fetched, (d.handle s).1 with
  | .ok detail, .ok (.committed .listedUpdate _ _) =>
    if d.message.caseId = id then some detail.hearingId else none
  | _, _ => none

def listings (id : CaseId) : List Delivery → MemoryStore → List HearingId
  | [], _ => []
  | d :: ds, s => (d.listed? id s).toList ++ listings id ds (d.handle s).2

inductive CaseAfter (d : Delivery) (id : CaseId) (s : MemoryStore) (a : CaseSnapshot) :
    CaseSnapshot → Prop where
  | same : d.listed? id s = none → CaseAfter d id s a a
  | committed (detail : HearingDetail) (r : Revision) (event : WorkflowEvent) (b : CaseSnapshot) :
      d.message.caseId = id → d.fetched = .ok detail → detail.CallsFor r →
      (d.handle s).1 = .ok (.committed detail.disposition event b.version) →
      b.data.hearings = r.onHearings detail a.data.hearings → CaseAfter d id s a b

theorem listed?_of_not_committed
    (h : ∀ k event version, (d.handle s).1 ≠ .ok (.committed k event version)) :
    d.listed? id s = none := by
  unfold listed?
  split
  · rename_i hresult
    exact absurd hresult (h _ _ _)
  · rfl

theorem listed?_of_other (h : d.message.caseId ≠ id) : d.listed? id s = none := by
  unfold listed?
  split
  · exact if_neg h
  · rfl

theorem listed?_of_committed {detail : HearingDetail} {event : WorkflowEvent} {version : Nat}
    (hid : d.message.caseId = id) (hf : d.fetched = .ok detail)
    (h : (d.handle s).1 = .ok (.committed detail.disposition event version)) :
    d.listed? id s =
      if detail.disposition = .listedUpdate then some detail.hearingId else none := by
  unfold listed?
  rw [hf, h]
  generalize detail.disposition = k
  cases k <;> simp [hid]

theorem caseAfter_handle (hs : s.cases.UnderOwnIds) (ha : s.get? id = some a) :
    ∃ b, (d.handle s).2.get? id = some b ∧ d.CaseAfter id s a b := by
  rcases handle_cases (d := d) hs with ⟨hstay, hne⟩ | ⟨detail, r, c, update, hd, hc, hu, ht⟩
  · refine ⟨a, ?_, .same (listed?_of_not_committed hne)⟩
    rw [hstay]
    exact ha
  by_cases hid : id = d.message.caseId
  · subst hid
    obtain rfl : a = c := Option.some.inj (ha.symm.trans (MemoryStore.get?_of_fetch hc))
    obtain ⟨hf, hr⟩ := change?_eq_some_iff.mp hd
    refine ⟨a.commit update, ?_, ?_⟩
    · rw [ht]
      exact MemoryStore.get?_apply_self
    · refine .committed detail r update.event.type _ rfl hf (callsFor_of_revision hr) ?_ ?_
      · rw [ht]
        rfl
      · rw [Revision.commit_data hu a]
  · refine ⟨a, ?_, .same (listed?_of_other (Ne.symm hid))⟩
    rw [ht]
    exact (MemoryStore.get?_apply_ne hid).trans ha

theorem CaseAfter.ids {b : CaseSnapshot} (h : d.CaseAfter id s a b) :
    Hearing.ids b.data.hearings =
      (d.listed? id s).toList.foldl Hearing.withId (Hearing.ids a.data.hearings) := by
  cases h with
  | same hn =>
    rw [hn]
    rfl
  | committed detail r event b hid hf hr hresult hb =>
    rw [hb, Revision.ids_onHearings hr, listed?_of_committed hid hf hresult]
    split <;> rfl

theorem run_ids (hs : s.cases.UnderOwnIds) (ha : s.get? id = some a) (ds : List Delivery) :
    ∃ b, (run ds s).get? id = some b ∧ Hearing.ids b.data.hearings =
      (listings id ds s).foldl Hearing.withId (Hearing.ids a.data.hearings) := by
  induction ds generalizing s a with
  | nil => exact ⟨a, ha, rfl⟩
  | cons d rest ih =>
    obtain ⟨b, hb, hafter⟩ := caseAfter_handle (d := d) hs ha
    obtain ⟨c, hc, hids⟩ := ih ((handle_move hs).underOwnIds hs) hb
    refine ⟨c, hc, ?_⟩
    rw [hids, hafter.ids, listings, List.foldl_append]

/-- No entry is removed or moved or gets another id. The ids behind those on file are those that
were listed in the meantime, each once, in the order of the first listing; so ids that are distinct
stay so. Each message leaves the case as it is, or is committed there and leaves every entry but the
first of its own hearing. -/
theorem hearing_list_kept (hs : s.cases.UnderOwnIds) (ha : s.get? id = some a)
    (ds : List Delivery) :
    (∃ b, (run ds s).get? id = some b ∧
      Hearing.ids b.data.hearings = Hearing.ids a.data.hearings ++
        ((listings id ds s).filter (· ∉ Hearing.ids a.data.hearings)).eraseDups ∧
      ((Hearing.ids a.data.hearings).Nodup → (Hearing.ids b.data.hearings).Nodup)) ∧
    ∀ before (d : Delivery), ∃ b c,
      (run before s).get? id = some b ∧ (d.handle (run before s)).2.get? id = some c ∧
        (c = b ∨ ∃ detail event, d.message.caseId = id ∧ d.fetched = .ok detail ∧
          (d.handle (run before s)).1 = .ok (.committed detail.disposition event c.version) ∧
          detail.Changes b.data.hearings c.data.hearings) := by
  constructor
  · obtain ⟨b, hb, hids⟩ := run_ids hs ha ds
    refine ⟨b, hb, hids.trans (Hearing.foldl_withId _ _), fun hnodup => ?_⟩
    rw [hids]
    exact Hearing.nodup_foldl_withId hnodup _
  · intro before d
    obtain ⟨b, hb, -⟩ := run_leadsTo hs before id a ha
    obtain ⟨c, hc, hafter⟩ := caseAfter_handle (d := d) (run_underOwnIds hs before) hb
    refine ⟨b, c, hb, hc, ?_⟩
    cases hafter with
    | same _ => exact .inl rfl
    | committed detail r event _ hid hf hr hresult hhearings =>
      refine .inr ⟨detail, event, hid, hf, hresult, ?_⟩
      rw [hhearings]
      exact Revision.changes_onHearings hr b.data.hearings

theorem hearing_list_kept_other :
    MemoryStore.oneCase.cases.UnderOwnIds ∧
    MemoryStore.oneCase.get? Rehearsal.listingMessage.caseId =
      some ⟨{ caseId := Rehearsal.listingMessage.caseId, state := .readyToList }, 1⟩ ∧
    listings Rehearsal.listingMessage.caseId [listingOn 19990, otherListing, listingOn 19991]
      MemoryStore.oneCase =
      [Rehearsal.listedHearing.hearingId, otherListing.message.hearingId,
        Rehearsal.listedHearing.hearingId] ∧
    ∃ b, (run [listingOn 19990, otherListing, listingOn 19991] MemoryStore.oneCase).get?
        Rehearsal.listingMessage.caseId = some b ∧
      Hearing.ids b.data.hearings =
        [Rehearsal.listedHearing.hearingId, otherListing.message.hearingId] ∧
      (Hearing.ids b.data.hearings).Nodup := by
  have hlistings : listings Rehearsal.listingMessage.caseId
      [listingOn 19990, otherListing, listingOn 19991] MemoryStore.oneCase =
      [Rehearsal.listedHearing.hearingId, otherListing.message.hearingId,
        Rehearsal.listedHearing.hearingId] := by rfl
  obtain ⟨⟨b, hb, hids, hnodup⟩, -⟩ := hearing_list_kept MemoryStore.oneCase_underOwnIds
    (rfl : MemoryStore.oneCase.get? Rehearsal.listingMessage.caseId = some _)
    [listingOn 19990, otherListing, listingOn 19991]
  rw [hlistings] at hids
  exact ⟨MemoryStore.oneCase_underOwnIds, rfl, hlistings, b, hb, hids, hnodup List.nodup_nil⟩

end Delivery

end HearingSync
