import HearingSync.Proofs.Delivery.Redelivery
import Mathlib.Data.List.Forall2
/-!
Messages about several hearings, seen from one hearing. Two stores agree on a hearing if they hold
the same cases with the same entry under its id; where the entry stands, and what else a case holds,
may differ. Main statement: after any messages a store agrees on a hearing with the store after the
messages about that hearing alone.
-/

namespace HearingSync

theorem Revision.hearing?_commit {detail : HearingDetail} {policy : ExceptionPolicy} {r : Revision}
    {data : CaseData} {update : CaseUpdate} (h : r.update? detail policy data = some update)
    (a : CaseSnapshot) (H : HearingId) :
    (a.commit update).data.hearing? H =
      if H = detail.hearingId then r.onEntry detail (data.hearing? H) else data.hearing? H := by
  rw [commit_data h a]
  by_cases hH : H = detail.hearingId
  · subst hH
    exact find?_onHearings data.hearings detail.hearingId
  · rw [if_neg hH]
    exact (find?_onHearings data.hearings H).trans (if_neg hH)

namespace Delivery

def isAbout (d : Delivery) (H : HearingId) : Bool :=
  match d.fetched with
  | .ok detail => detail.hearingId = H
  | .error _ => false

def about (H : HearingId) (ds : List Delivery) : List Delivery := ds.filter (·.isAbout H)

structure AgreeOn (H : HearingId) (s t : MemoryStore) : Prop where
  left : s.cases.UnderOwnIds
  right : t.cases.UnderOwnIds
  unavailable : s.unavailable = t.unavailable
  entries : ∀ id, (s.get? id).map (·.data.hearing? H) = (t.get? id).map (·.data.hearing? H)

variable {d e : Delivery} {H : HearingId} {s t u : MemoryStore} {id : CaseId} {a b : CaseSnapshot}
  {detail : HearingDetail} {r : Revision}

theorem isAbout_of_change (h : d.change? = some (detail, r)) :
    d.isAbout H = decide (detail.hearingId = H) := by
  unfold isAbout
  rw [(change?_eq_some_iff.mp h).1]

theorem about_cons_of_isAbout {rest : List Delivery} (h : d.isAbout H = true) :
    about H (d :: rest) = d :: about H rest := List.filter_cons_of_pos h

theorem about_cons_of_not_isAbout {rest : List Delivery} (h : d.isAbout H = false) :
    about H (d :: rest) = about H rest := List.filter_cons_of_neg (by simp [h])

namespace AgreeOn

theorem refl (hs : s.cases.UnderOwnIds) (H : HearingId) : AgreeOn H s s :=
  ⟨hs, hs, rfl, fun _ => rfl⟩

theorem symm (h : AgreeOn H s t) : AgreeOn H t s :=
  ⟨h.right, h.left, h.unavailable.symm, fun id => (h.entries id).symm⟩

theorem trans (h : AgreeOn H s t) (k : AgreeOn H t u) : AgreeOn H s u :=
  ⟨h.left, k.right, h.unavailable.trans k.unavailable,
    fun id => (h.entries id).trans (k.entries id)⟩

theorem get?_eq_some (h : AgreeOn H s t) (ha : s.get? id = some a) :
    ∃ b, t.get? id = some b ∧ a.data.hearing? H = b.data.hearing? H := by
  have hentry := h.entries id
  rw [ha, Option.map_some] at hentry
  obtain ⟨b, hb, hab⟩ := Option.map_eq_some_iff.mp hentry.symm
  exact ⟨b, hb, hab.symm⟩

theorem fetch_eq_ok (h : AgreeOn H s t) (ha : s.fetch id = .ok a) :
    ∃ b, t.fetch id = .ok b ∧ a.data.hearing? H = b.data.hearing? H := by
  obtain ⟨havailable, hfiled⟩ := MemoryStore.fetch_eq_ok_iff.mp ha
  obtain ⟨b, hb, hab⟩ := h.get?_eq_some hfiled
  exact ⟨b, MemoryStore.fetch_eq_ok_iff.mpr ⟨h.unavailable ▸ havailable, hb⟩, hab⟩

/-- The stores after changes of one case that leave the same entry there. -/
theorem apply (h : AgreeOn H s t) {update update' : CaseUpdate}
    (hs : (s.apply id a update).cases.UnderOwnIds) (ht : (t.apply id b update').cases.UnderOwnIds)
    (hentry : (a.commit update).data.hearing? H = (b.commit update').data.hearing? H) :
    AgreeOn H (s.apply id a update) (t.apply id b update') := by
  refine ⟨hs, ht, h.unavailable, fun l => ?_⟩
  by_cases hl : l = id
  · subst hl
    simp [hentry]
  · rw [MemoryStore.get?_apply_ne hl, MemoryStore.get?_apply_ne hl]
    exact h.entries l

theorem apply_left (h : AgreeOn H s t) {update : CaseUpdate}
    (hs : (s.apply id a update).cases.UnderOwnIds) (ha : s.get? id = some a)
    (hentry : (a.commit update).data.hearing? H = a.data.hearing? H) :
    AgreeOn H (s.apply id a update) t := by
  refine ⟨hs, h.right, h.unavailable, fun l => ?_⟩
  rw [← h.entries l]
  by_cases hl : l = id
  · subst hl
    simp [ha, hentry]
  · rw [MemoryStore.get?_apply_ne hl]

/-- A message may come later on one side, and its case may hold other things there. -/
theorem handle (h : AgreeOn H s t) (he : d.Again e) : AgreeOn H (d.handle s).2 (e.handle t).2 := by
  have hs := (handle_move (d := d) h.left).underOwnIds h.left
  have ht := (handle_move (d := e) h.right).underOwnIds h.right
  cases hd : d.change? with
  | none =>
    rw [handle_of_no_change h.left hd, handle_of_no_change h.right (he.change?_of_none hd)]
    exact h
  | some change =>
    obtain ⟨detail, r⟩ := change
    cases hf : s.fetch d.message.caseId with
    | error failure =>
      -- the case is read on both sides or on neither
      have hunread : (e.handle t).2 = t := by
        cases hf' : t.fetch d.message.caseId with
        | error failure' => exact handle_of_unread h.right (he.message ▸ hf')
        | ok b =>
          obtain ⟨a, ha, -⟩ := h.symm.fetch_eq_ok hf'
          cases ha.symm.trans hf
      rw [handle_of_unread h.left hf, hunread]
      exact h
    | ok a =>
      obtain ⟨b, hb, hab⟩ := h.fetch_eq_ok hf
      obtain ⟨now, hchange⟩ := he.change?_of_some hd
      obtain ⟨clock, rfl⟩ := he
      obtain ⟨update, hu, hsu⟩ := handle_of_change h.left hd hf
      obtain ⟨update', hu', htu⟩ := handle_of_change h.right hchange hb
      rw [hsu] at hs ⊢
      rw [htu] at ht ⊢
      -- the documents may differ before and after, but not in this entry
      refine h.apply hs ht ?_
      rw [Revision.hearing?_commit hu, Revision.hearing?_commit hu', hab, Revision.onEntry_timed]

/-- A message about another hearing may be left out on one side. -/
theorem skip (h : AgreeOn H s t) (hd : d.isAbout H = false) : AgreeOn H (d.handle s).2 t := by
  have hs := (handle_move (d := d) h.left).underOwnIds h.left
  rcases handle_cases (d := d) h.left with ⟨hstay, -⟩ | ⟨detail, r, a, update, hc, ha, hu, ht⟩
  · rw [hstay]
    exact h
  · rw [ht] at hs ⊢
    have hH : H ≠ detail.hearingId := by
      rintro rfl
      rw [isAbout_of_change hc] at hd
      simp at hd
    refine h.apply_left hs (MemoryStore.get?_of_fetch ha) ?_
    rw [Revision.hearing?_commit hu, if_neg hH]

theorem run {ds es : List Delivery} (h : AgreeOn H s t)
    (hes : List.Forall₂ Again (about H ds) es) :
    AgreeOn H (Delivery.run ds s) (Delivery.run es t) := by
  induction ds generalizing s t es with
  | nil =>
    cases hes
    exact h
  | cons d rest ih =>
    cases hd : d.isAbout H with
    | true =>
      rw [about_cons_of_isAbout hd] at hes
      cases hes with
      | @cons _ e _ later he hrest =>
        rw [run_cons, run_cons]
        exact ih (h.handle he) hrest
    | false =>
      rw [about_cons_of_not_isAbout hd] at hes
      exact ih (h.skip hd) hes

/-- Only the messages about the hearing count. -/
theorem run_of_about_eq (hs : s.cases.UnderOwnIds) {ds es : List Delivery}
    (h : about H ds = about H es) : AgreeOn H (Delivery.run ds s) (Delivery.run es s) := by
  have hsame : List.Forall₂ Again (about H ds) (about H ds) :=
    List.forall₂_same.mpr fun d _ => Again.refl d
  have hds := (refl hs H).run hsame
  have hes := (refl hs H).run (h ▸ hsame : List.Forall₂ Again (about H es) (about H ds))
  exact hds.trans hes.symm

end AgreeOn

/-- A message about a hearing is one whose fetched detail has that id. The entry of a hearing is
what the messages about it alone would have made of it, at whatever times they came; so two messages
about different hearings may change places. -/
theorem hearings_independent (hs : s.cases.UnderOwnIds) (ha : s.get? id = some a)
    (H : HearingId) :
    (∀ ds es, List.Forall₂ Again (about H ds) es →
      ∃ b c, (run ds s).get? id = some b ∧ (run es s).get? id = some c ∧
        b.data.hearing? H = c.data.hearing? H) ∧
    ∀ before d e after, ¬(d.isAbout H = true ∧ e.isAbout H = true) →
      ∃ b c, (run (before ++ d :: e :: after) s).get? id = some b ∧
        (run (before ++ e :: d :: after) s).get? id = some c ∧
        b.data.hearing? H = c.data.hearing? H := by
  constructor
  · intro ds es hes
    obtain ⟨b, hb, -⟩ := run_leadsTo hs ds id a ha
    obtain ⟨c, hc, hbc⟩ := ((AgreeOn.refl hs H).run hes).get?_eq_some hb
    exact ⟨b, c, hb, hc, hbc⟩
  · intro before d e after hne
    have habout : about H (before ++ d :: e :: after) = about H (before ++ e :: d :: after) := by
      cases hd : d.isAbout H with
      | true =>
        have he : e.isAbout H = false := by simpa [hd] using hne
        simp [about, hd, he]
      | false => simp [about, List.filter_cons, hd]
    obtain ⟨b, hb, -⟩ := run_leadsTo hs (before ++ d :: e :: after) id a ha
    obtain ⟨c, hc, hbc⟩ := (AgreeOn.run_of_about_eq hs habout).get?_eq_some hb
    exact ⟨b, c, hb, hc, hbc⟩

def otherListing : Delivery :=
  .steady {} Rehearsal.listingMessage.caseId
    { Rehearsal.listedHearing with hearingId := ⟨"9", by decide, by decide⟩ } ⟨"12", "Leeds", none⟩
    (midnight 19990)

theorem hearings_independent_other :
    MemoryStore.oneCase.cases.UnderOwnIds ∧
    MemoryStore.oneCase.get? Rehearsal.listingMessage.caseId =
      some ⟨{ caseId := Rehearsal.listingMessage.caseId, state := .readyToList }, 1⟩ ∧
    List.Forall₂ Again (about Rehearsal.listedHearing.hearingId [otherListing, listingOn 19990])
      [listingOn 19991] ∧
    ((run [otherListing, listingOn 19990] MemoryStore.oneCase).get?
      Rehearsal.listingMessage.caseId).map (·.data.hearings.length) = some 2 ∧
    (∃ b c,
      (run [otherListing, listingOn 19990] MemoryStore.oneCase).get?
        Rehearsal.listingMessage.caseId = some b ∧
      (run [listingOn 19991] MemoryStore.oneCase).get? Rehearsal.listingMessage.caseId = some c ∧
      b.data.hearing? Rehearsal.listedHearing.hearingId =
        c.data.hearing? Rehearsal.listedHearing.hearingId) ∧
    ¬(otherListing.isAbout Rehearsal.listedHearing.hearingId = true ∧
      (listingOn 19990).isAbout Rehearsal.listedHearing.hearingId = true) ∧
    ∃ b c,
      (run [otherListing, listingOn 19990] MemoryStore.oneCase).get?
        Rehearsal.listingMessage.caseId = some b ∧
      (run [listingOn 19990, otherListing] MemoryStore.oneCase).get?
        Rehearsal.listingMessage.caseId = some c ∧
      b.data.hearing? Rehearsal.listedHearing.hearingId =
        c.data.hearing? Rehearsal.listedHearing.hearingId := by
  have hlater : List.Forall₂ Again
      (about Rehearsal.listedHearing.hearingId [otherListing, listingOn 19990])
      [listingOn 19991] :=
    .cons ⟨fun _ => midnight 19991, rfl⟩ .nil
  have hother : ¬(otherListing.isAbout Rehearsal.listedHearing.hearingId = true ∧
      (listingOn 19990).isAbout Rehearsal.listedHearing.hearingId = true) := by
    rintro ⟨h, -⟩
    exact absurd h (by decide)
  have h := hearings_independent MemoryStore.oneCase_underOwnIds
    (rfl : MemoryStore.oneCase.get? Rehearsal.listingMessage.caseId = some _)
    Rehearsal.listedHearing.hearingId
  exact ⟨MemoryStore.oneCase_underOwnIds, rfl, hlater, by rfl, h.1 _ _ hlater, hother,
    h.2 [] otherListing (listingOn 19990) [] hother⟩

end Delivery

end HearingSync
