import HearingSync.Proofs.Delivery.Projection
import HearingSync.Proofs.Time.LocalOrder
/-!
The times on the entry of a listed hearing. A session is checked in universal time, and its entry
has the readings in London, which do not say on which side of a change of the clocks they are. Main
statements: in which nights an entry ends before it starts, and one that does.
-/

namespace HearingSync

open Runs (Run)

/-- The clocks go back while the session lasts, by more than it lasts; it lasts under an hour. -/
structure ListedSession.EndsWithinSetBack (session : ListedSession) : Prop where
  clocksGoBack : London.GoBackWithin session.start.epochSecond session.finish.epochSecond
  endsWithin : session.finish.utc < session.start.utc.addSeconds
    (London.setBack session.start.epochSecond session.finish.epochSecond)
  endsWithinHour : session.finish.utc < session.start.utc.addSeconds 3600

/-- The entry has the times of the session, as read in London; when they are in the wrong order. -/
structure ListedSession.TimesOn (session : ListedSession) (entry : Hearing) : Prop where
  start : entry.start = some session.start.toLondon
  finish : entry.finish = some session.finish.toLondon
  inverted_iff : session.finish.toLondon < session.start.toLondon ↔ session.EndsWithinSetBack

namespace Delivery

variable {detail : HearingDetail}

theorem not_inverted_of_singleSession {session : ListedSession}
    (h : detail.singleSession = .ok session) : ¬session.finish < session.start := by
  unfold HearingDetail.singleSession at h
  split at h
  · split at h
    · cases h
    · cases h
    · cases h
    · split at h
      · cases h
      · rename_i hordered
        cases h
        exact hordered
  · cases h

theorem timesOn_withSession {session : ListedSession} (h : detail.singleSession = .ok session)
    (entry : Hearing) (venue : Venue) (panel : Option Panel) :
    session.TimesOn (entry.withSession session venue panel) := by
  refine ⟨rfl, rfl, ?_⟩
  constructor
  · intro hinverted
    have hordered := not_inverted_of_singleSession h
    obtain ⟨hback, hhour⟩ := Instant.goBackWithin_of_toLondon_lt hordered hinverted
    exact ⟨hback, Instant.toLondon_lt_toLondon.mp hinverted, hhour⟩
  · intro hwithin
    exact Instant.toLondon_lt_toLondon.mpr hwithin.endsWithin

section Written

variable {m : Type → Type} [Monad m] [LawfulMonad m] {σ : Type} [Runs m σ] {c : Collaborators m}
  {settings : Settings} {message : HearingMessage} {session : ListedSession} {s t : σ}

theorem timesOn_of_resolve (hsession : detail.singleSession = .ok session)
    {hearings : List Hearing} {previous : WorkBasket} {update : ListedUpdate}
    (h : Run (ListedUpdate.resolve c.reference c.note settings.panelEnabled message.caseId detail
      hearings previous).run s (.ok update) t) :
    ∃ entry, Hearing.find? update.hearings detail.hearingId = some entry ∧
      session.TimesOn entry := by
  rw [Reconcile.resolve_eq_lookUp] at h
  rcases h.of_exceptBind with ⟨e, -, he⟩ | ⟨found, u, hlook, h⟩
  · cases he
  rcases h.of_exceptBind with ⟨e, -, he⟩ | ⟨now, v, -, h⟩
  · cases he
  obtain ⟨hupdate, -⟩ := h.of_exceptPure
  cases hupdate
  have hkeeps : Hearing.KeepsId (·.withSession found.session found.venue found.panel) :=
    fun _ => rfl
  have hentry : Hearing.find? (Hearing.upsert detail.hearingId
      (·.withSession found.session found.venue found.panel) hearings) detail.hearingId = some _ :=
    (Hearing.find?_upsert hkeeps).trans (if_pos rfl)
  cases hsession.symm.trans (Reconcile.singleSession_of_lookUp hlook)
  exact ⟨_, hentry, timesOn_withSession hsession _ found.venue found.panel⟩

theorem revision_of_written {a : CaseSnapshot} {update : CaseUpdate}
    (h : Run (Reconcile.mutation c settings message detail a).run s (.ok (some update)) t) :
    ∃ r, Run (Reconcile.revision c settings message detail).run s (.ok (some r)) t ∧
      r.update? detail settings.policy a.data = some update := by
  obtain ⟨answer, hrevision, hr⟩ := Reconcile.revision_of_mutation h
  rcases answer with e | _ | r
  · cases hr
  · cases hr
  · exact ⟨r, hrevision, (Except.ok.inj hr).symm⟩

theorem timesOn_of_mutation {a : CaseSnapshot} {update : CaseUpdate}
    (hsession : detail.singleSession = .ok session) (hd : detail.disposition = .listedUpdate)
    (h : Run (Reconcile.mutation c settings message detail a).run s (.ok (some update)) t) :
    ∃ entry, (∀ current : CaseSnapshot,
        (current.commit update).data.hearing? detail.hearingId = some entry) ∧
      session.TimesOn entry := by
  obtain ⟨r, hrevision, hu⟩ := revision_of_written h
  have hcommit := fun current => Revision.hearing?_commit hu current detail.hearingId
  cases Reconcile.callsFor_of_revision hrevision with
  | list found now _ hfound =>
    cases hsession.symm.trans hfound
    refine ⟨_, fun current => (hcommit current).trans (if_pos rfl), ?_⟩
    have htimes := timesOn_withSession hsession
      ((a.data.hearing? detail.hearingId).getD { hearingId := detail.hearingId }) found.venue
      found.panel
    exact ⟨htimes.start, htimes.finish, htimes.inverted_iff⟩
  | cancelledInListing hother => cases hd.symm.trans hother
  | ended hother => rcases hother with hother | hother <;> cases hd.symm.trans hother

/-- The entry of a listed hearing has the times of its session as read in London. It ends before it
starts only where the clocks go back while the session lasts, by more than it lasts. -/
theorem listed_entry_times (c : Collaborators m) (settings : Settings) (message : HearingMessage)
    (detail : HearingDetail) (session : ListedSession)
    (hsession : detail.singleSession = .ok session) :
    (∀ (hearings : List Hearing) (previous : WorkBasket) (s t : σ) (update : ListedUpdate),
      Run (ListedUpdate.resolve c.reference c.note settings.panelEnabled message.caseId detail
        hearings previous).run s (.ok update) t →
      ∃ entry, Hearing.find? update.hearings detail.hearingId = some entry ∧
        session.TimesOn entry) ∧
    (detail.disposition = .listedUpdate → ∀ (a : CaseSnapshot) (s t : σ) (update : CaseUpdate),
      Run (Reconcile.mutation c settings message detail a).run s (.ok (some update)) t →
      ∃ entry, (∀ current : CaseSnapshot,
          (current.commit update).data.hearing? detail.hearingId = some entry) ∧
        session.TimesOn entry) := by
  constructor
  · intro hearings previous s t update h
    exact timesOn_of_resolve hsession h
  · intro hd a s t update h
    exact timesOn_of_mutation hsession hd h

end Written

/-- The session of the night of 27 October 2024: half past midnight to ten past one in universal
time. In London the clocks go back in between. -/
def nightSession : ListedSession where
  start := ⟨(midnight 20023).utc.addSeconds 1800⟩
  finish := ⟨(midnight 20023).utc.addSeconds 4200⟩
  venue := Rehearsal.hearingRoom
  judge := none
  panelMembers := []
  channel := none

def nightHearing : HearingDetail :=
  { Rehearsal.listedHearing with
    sessions := [
      { start := some nightSession.start, finish := some nightSession.finish
        venue := some nightSession.venue, judge := none, panelMembers := [], channel := none }] }

def nightListing : Delivery :=
  .steady {} Rehearsal.listingMessage.caseId nightHearing ⟨"12", "Leeds", none⟩ (midnight 19990)

theorem nightSession_endsWithinSetBack : nightSession.EndsWithinSetBack where
  clocksGoBack := ⟨1729990800, by decide, by decide, by decide +kernel⟩
  endsWithin := by decide +kernel
  endsWithinHour := by decide

def nightCase : CaseSnapshot :=
  ⟨{ caseId := Rehearsal.listingMessage.caseId, state := .readyToList }, 1⟩

theorem listed_entry_times_night :
    nightHearing.singleSession = .ok nightSession ∧ nightHearing.disposition = .listedUpdate ∧
    ∃ update entry, nightListing.decision nightHearing nightCase = .ok (some update) ∧
      (nightCase.commit update).data.hearing? nightHearing.hearingId = some entry ∧
      nightSession.TimesOn entry ∧ nightSession.EndsWithinSetBack := by
  obtain ⟨update, hupdate⟩ : ∃ update,
      nightListing.decision nightHearing nightCase = .ok (some update) := ⟨_, rfl⟩
  have hrun : Run (Reconcile.mutation nightListing.services.collaborators nightListing.settings
      nightListing.message nightHearing nightCase).run
    ([.hearing nightListing.message.hearingId (.ok nightHearing)], ())
    (nightListing.decision nightHearing nightCase) (_, ()) := rfl
  obtain ⟨-, hwritten⟩ := listed_entry_times (σ := List Call × Unit)
    nightListing.services.collaborators nightListing.settings nightListing.message nightHearing
    nightSession rfl
  obtain ⟨entry, hentry, htimes⟩ := hwritten rfl nightCase _ _ update (hupdate ▸ hrun)
  exact ⟨rfl, rfl, update, entry, hupdate, hentry nightCase, htimes, nightSession_endsWithinSetBack⟩

/-- A listed hearing may be entered as ending before it starts. -/
theorem listed_entries_not_in_order :
    ¬∀ (d : Delivery) (detail : HearingDetail) (session : ListedSession) (a : CaseSnapshot)
      (update : CaseUpdate) (entry : Hearing) (start finish : WallClock),
      detail.disposition = .listedUpdate → detail.singleSession = .ok session →
      d.decision detail a = .ok (some update) →
      (a.commit update).data.hearing? detail.hearingId = some entry →
      entry.start = some start → entry.finish = some finish → ¬finish < start := by
  intro hordered
  exact hordered nightListing nightHearing nightSession nightCase _ _ _ _ rfl rfl rfl rfl rfl rfl
    (by decide +kernel)

end Delivery

end HearingSync
