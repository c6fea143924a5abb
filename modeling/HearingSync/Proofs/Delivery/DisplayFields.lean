import HearingSync.Proofs.Delivery.CaseStates
import HearingSync.Proofs.Delivery.Projection
import HearingSync.VenueTable
/-!
What a case shows of its hearings. An entry has the schedule of a listing, the texts that show it
and the venue that its code stands for, and the work basket repeats date and venue. Main statement:
over one table of venues these fields stay in step, whatever messages are written at the same time,
and a listing that was committed is shown by the entry and by the basket.
-/

namespace HearingSync

/-- The fields that a listing fills are all there or all missing, the texts show the start, and the
venue is the one that the table has for the code. -/
structure Hearing.Coherent (table : VenueTable) (h : Hearing) : Prop where
  finish : h.finish.isSome = h.start.isSome
  venueCode : h.venueCode.isSome = h.start.isSome
  venue : h.venue.isSome = h.start.isSome
  dateText : h.dateText = h.start.map WallClock.hearingDateText
  timeText : h.timeText = h.start.map WallClock.hearingTimeText
  resolved : h.venue = h.venueCode.bind table.find?

def CaseData.Coherent (table : VenueTable) (c : CaseData) : Prop :=
  ∀ h ∈ c.hearings, h.Coherent table

/-- What an entry and the work basket show of a session: the times in London, the venue in both, and
the date in both, which is the date in London. -/
structure ListedSession.ShownOn (session : ListedSession) (entry : Hearing) (basket : WorkBasket) :
    Prop where
  start : entry.start = some session.start.toLondon
  finish : entry.finish = some session.finish.toLondon
  venueCode : entry.venueCode = some session.venue
  basketVenue : basket.venueCode = entry.venueCode
  basketDate : basket.date = some session.start.toLondon.date
  dateText : entry.dateText = some (String.ofList session.start.toLondon.date.text)

/-- The services find the venues of a table, unless they fail. -/
def Services.FindVenuesIn (services : Services) (table : VenueTable) : Prop :=
  ∀ calls code found, services.venue? calls code = .ok found → found = table.find? code

variable {table : VenueTable} {detail : HearingDetail}

namespace Hearing

theorem coherent_new (id : HearingId) : Coherent table { hearingId := id } :=
  ⟨rfl, rfl, rfl, rfl, rfl, rfl⟩

theorem Coherent.stamped {h : Hearing} (hc : h.Coherent table) (status : Option HearingStatus) :
    (Hearing.stamped status h).Coherent table :=
  ⟨hc.finish, hc.venueCode, hc.venue, hc.dateText, hc.timeText, hc.resolved⟩

/-- A listing fills all the fields, whatever was there. -/
theorem coherent_withSession (h : Hearing) {session : ListedSession} {venue : Venue}
    (hvenue : table.find? session.venue = some venue) (panel : Option Panel) :
    (h.withSession session venue panel).Coherent table :=
  ⟨rfl, rfl, rfl, rfl, rfl, hvenue.symm⟩

end Hearing

namespace Revision

def TakesVenueFrom (table : VenueTable) : Revision → Prop
  | .list found _ => table.find? found.session.venue = some found.venue
  | .withdraw _ => True

variable {r : Revision}

theorem coherent_edit (detail : HearingDetail) (hr : r.TakesVenueFrom table) (h : Hearing)
    (hc : h.Coherent table) : (r.edit detail h).Coherent table := by
  cases r with
  | list found now => exact (Hearing.coherent_withSession h hr found.panel).stamped _
  | withdraw status => exact hc.stamped status

theorem coherent_onHearings (hr : r.TakesVenueFrom table) {hearings : List Hearing}
    (hc : ∀ h ∈ hearings, h.Coherent table) :
    ∀ h ∈ r.onHearings detail hearings, h.Coherent table := by
  have hedit := coherent_edit detail hr
  cases r with
  | list found now => exact Hearing.forall_mem_upsert hedit (Hearing.coherent_new _) hc
  | withdraw status => exact Hearing.forall_mem_modifyFirst hedit hc

/-- The entry and the basket are filled from the same session. -/
theorem shownOn_list (found : Findings) (now : Instant) (entry : Hearing) (previous : WorkBasket) :
    found.session.ShownOn ((Revision.list found now).edit detail entry)
      ((Revision.list found now).onBasket previous) :=
  ⟨rfl, rfl, rfl, rfl, rfl, rfl⟩

end Revision

namespace Delivery

variable {d : Delivery} {r : Revision} {s : MemoryStore}

theorem takesVenueFrom_of_revision (hv : d.services.FindVenuesIn table)
    (h : d.revision detail = .ok (some r)) : r.TakesVenueFrom table := by
  cases revised h with
  | listed found now _ hlook =>
    cases hlook with
    | found _ _ _ _ hvenue => exact (hv _ _ _ (run_call hvenue).1.symm).symm
  | withdrawn status _ => exact trivial

/-- A message that is not to be written leaves the store alone. -/
theorem handle_of_not_pending (hs : s.cases.UnderOwnIds)
    (h : ∀ w : PendingWrite, w.delivery ≠ d) : (d.handle s).2 = s := by
  rcases handle_cases (d := d) hs with ⟨hstay, -⟩ | ⟨detail, r, a, update, hchange, -⟩
  · exact hstay
  · obtain ⟨hfetched, hr⟩ := change?_eq_some_iff.mp hchange
    have hcalls := callsFor_of_revision hr
    have hdue : detail.CallsForWrite := ⟨hcalls.isActionable, hcalls.session⟩
    exact absurd rfl (h ⟨d, detail, hfetched, hdue⟩)

end Delivery

namespace PendingWrite

variable {w : PendingWrite} {a : CaseSnapshot} {update : CaseUpdate}

theorem coherent_commit (hv : w.delivery.services.FindVenuesIn table)
    (h : w.write.decide a = .ok (some update)) (hc : a.data.Coherent table) :
    (a.commit update).data.Coherent table := by
  obtain ⟨r, hr, hu⟩ := Delivery.decision_eq_some_iff.mp h
  rw [Revision.commit_data hu a]
  exact Revision.coherent_onHearings (Delivery.takesVenueFrom_of_revision hv hr) hc

theorem shown_commit (h : w.write.decide a = .ok (some update))
    (hd : w.detail.disposition = .listedUpdate) :
    ∃ session entry, w.detail.singleSession = .ok session ∧
      (a.commit update).data.hearing? w.detail.hearingId = some entry ∧
      session.ShownOn entry (a.commit update).data.workBasket := by
  obtain ⟨r, hr, hu⟩ := Delivery.decision_eq_some_iff.mp h
  have hentry := (Revision.hearing?_commit hu a w.detail.hearingId).trans (if_pos rfl)
  cases Delivery.callsFor_of_revision hr with
  | list found now _ hsession =>
    refine ⟨found.session, _, hsession, hentry, ?_⟩
    rw [Revision.commit_data hu a]
    exact Revision.shownOn_list found now _ a.data.workBasket
  | cancelledInListing hother => cases hd.symm.trans hother
  | ended hother => rcases hother with hother | hother <;> cases hd.symm.trans hother

end PendingWrite

namespace System

variable {ι : Type} [DecidableEq ι] {messages : ι → PendingWrite} {seeds : List CaseData}
  {σ τ : System ι} {id : CaseId} {a : CaseSnapshot}

theorem step_coherent (hv : ∀ i, (messages i).delivery.services.FindVenuesIn table)
    (h : Invariant (fun i => (messages i).write) seeds σ)
    (hs : Step (fun i => (messages i).write) σ τ) (ha : σ.store.get? id = some a)
    (hc : a.data.Coherent table) : ∃ b, τ.store.get? id = some b ∧ b.data.Coherent table := by
  obtain ⟨b, hb, hdata | ⟨i, update, -, hu, rfl, -⟩⟩ := step_case hs h ha
  · exact ⟨b, hb, hdata ▸ hc⟩
  · exact ⟨a.commit update, hb, PendingWrite.coherent_commit (hv i) hu hc⟩

theorem execution_coherent (hv : ∀ i, (messages i).delivery.services.FindVenuesIn table)
    (hs : Execution (fun i => (messages i).write) σ τ)
    (h : Invariant (fun i => (messages i).write) seeds σ) (ha : σ.store.get? id = some a)
    (hc : a.data.Coherent table) : ∃ b, τ.store.get? id = some b ∧ b.data.Coherent table := by
  induction hs generalizing a with
  | nil => exact ⟨a, ha, hc⟩
  | cons hstep _ ih =>
    obtain ⟨b, hb, hcb⟩ := step_coherent hv h hstep ha hc
    exact ih (step_preserves_invariant hstep h) hb hcb

theorem commits_shown (h : Invariant (fun i => (messages i).write) seeds σ)
    (hs : Step (fun i => (messages i).write) σ τ) {i : ι} {version : Nat} {event : CaseEvent}
    (hc : Commits σ τ i version event) (hd : (messages i).detail.disposition = .listedUpdate) :
    ∃ b session entry, τ.store.get? (messages i).write.caseId = some b ∧ b.version = version ∧
      (messages i).detail.singleSession = .ok session ∧
      b.data.hearing? (messages i).detail.hearingId = some entry ∧
      session.ShownOn entry b.data.workBasket := by
  obtain ⟨a, update, -, hu, hb, hversion⟩ := commits_decision hs h hc
  obtain ⟨session, entry, hsession, hentry, hshown⟩ := PendingWrite.shown_commit hu hd
  exact ⟨a.commit update, session, entry, hb, hversion, hsession, hentry, hshown⟩

/-- Whatever messages are written at the same time, in whatever order of their steps, and whichever
of their lookups fail: a case whose entries are coherent keeps them so. Right after a listing is
committed, the first entry of its hearing and the work basket show its session, by the clocks in
London. A message that is not to be written leaves the store alone. -/
theorem display_fields_follow_schedule (table : VenueTable) (messages : ι → PendingWrite)
    (hv : ∀ i, (messages i).delivery.services.FindVenuesIn table) {seeds : List CaseData}
    (hseeds : (seeds.map CaseData.caseId).Nodup) {σ : System ι}
    (hσ : Execution (fun i => (messages i).write) (initial seeds) σ) :
    (∀ d ∈ seeds, d.Coherent table →
      ∃ a, σ.store.get? d.caseId = some a ∧ a.data.Coherent table) ∧
    (∀ τ id a, Execution (fun i => (messages i).write) σ τ → σ.store.get? id = some a →
      a.data.Coherent table → ∃ b, τ.store.get? id = some b ∧ b.data.Coherent table) ∧
    (∀ τ i version event, Step (fun i => (messages i).write) σ τ → Commits σ τ i version event →
      (messages i).detail.disposition = .listedUpdate →
      ∃ b session entry, τ.store.get? (messages i).write.caseId = some b ∧ b.version = version ∧
        (messages i).detail.singleSession = .ok session ∧
        b.data.hearing? (messages i).detail.hearingId = some entry ∧
        session.ShownOn entry b.data.workBasket) ∧
    ∀ (d : Delivery) (s : MemoryStore), s.cases.UnderOwnIds →
      (∀ w : PendingWrite, w.delivery ≠ d) → (d.handle s).2 = s := by
  have hstart : Invariant (fun i => (messages i).write) seeds (initial seeds) :=
    initial_invariant hseeds
  have h := execution_preserves_invariant hσ hstart
  refine ⟨?_, ?_, ?_, ?_⟩
  · intro d hd hc
    exact execution_coherent hv hσ hstart (MemoryStore.get?_foldl_insert {} hseeds hd) hc
  · intro τ id a hτ ha hc
    exact execution_coherent hv hτ h ha hc
  · intro τ i version event hstep hc hd
    exact commits_shown h hstep hc hd
  · intro d s hs hd
    exact Delivery.handle_of_not_pending hs hd

/-- The last half hour of 30 June 2024 in universal time, and the first of July. In London all of it
is in July. -/
def julySession : ListedSession where
  start := ⟨{ date := ⟨19904⟩, second := 23 * 3600 + 1800, nano := 0
              nano_lt := WallClock.zero_nano_lt }⟩
  finish := ⟨{ date := ⟨19905⟩, second := 1800, nano := 0, nano_lt := WallClock.zero_nano_lt }⟩
  venue := Rehearsal.hearingRoom
  judge := none
  panelMembers := []
  channel := none

def julyHearing : HearingDetail :=
  { Rehearsal.listedHearing with
    sessions := [
      { start := some julySession.start, finish := some julySession.finish
        venue := some julySession.venue, judge := none, panelMembers := [], channel := none }] }

def julyListing (venue? : VenueCode → Except ClientError (Option Venue)) : PendingWrite where
  delivery :=
    let steady := Delivery.steady { strategy := .callback } Rehearsal.listingMessage.caseId
      julyHearing ⟨"12", "Leeds", none⟩ silentServices.instant
    { steady with services := { steady.services with venue? := fun _ => venue? } }
  detail := julyHearing
  fetched := rfl
  due := ⟨rfl, fun _ => ⟨julySession, rfl⟩⟩

def julyListings : Bool → PendingWrite
  | false => julyListing fun code => .error (.answered code.text 503 "")
  | true => julyListing fun code => .ok (Rehearsal.oneVenue.venues.find? code)

def julyCase : CaseData where
  caseId := Rehearsal.listingMessage.caseId
  state := .readyToList
  hearings := [{ hearingId := failedHearing.hearingId }]

def julyFailed : System Bool :=
  (initial [julyCase]).finish false
    ((julyListings false).write.transact (initial (ι := Bool) [julyCase]).store)

def julyListed : System Bool :=
  julyFailed.finish true ((julyListings true).write.transact julyFailed.store)

/-- In the case the hearing is on 1 July, in the entry and in the work basket. -/
theorem display_fields_follow_schedule_july :
    julyCase.Coherent Rehearsal.oneVenue.venues ∧
    Execution (fun i => (julyListings i).write) (initial [julyCase]) julyFailed ∧
    Step (fun i => (julyListings i).write) julyFailed julyListed ∧
    Commits julyFailed julyListed true 2 (julyHearing.caseEvent .hearingBooked) ∧
    ∃ b entry, julyListed.store.get? julyCase.caseId = some b ∧
      b.data.Coherent Rehearsal.oneVenue.venues ∧
      b.data.hearing? julyHearing.hearingId = some entry ∧
      julySession.ShownOn entry b.data.workBasket ∧ entry.dateText = some "2024-07-01" ∧
      b.data.workBasket.date = some ⟨19905⟩ := by
  have hv (i : Bool) :
      (julyListings i).delivery.services.FindVenuesIn Rehearsal.oneVenue.venues := by
    intro calls code found h
    cases i with
    | false => cases h
    | true => exact (Except.ok.inj h).symm
  have hcoherent : julyCase.Coherent Rehearsal.oneVenue.venues := by
    intro h hmem
    rw [List.mem_singleton.mp hmem]
    exact Hearing.coherent_new _
  have hfailed : Execution (fun i => (julyListings i).write) (initial [julyCase]) julyFailed :=
    .cons (.transact (i := false) rfl rfl) .nil
  have hstep : Step (fun i => (julyListings i).write) julyFailed julyListed :=
    .transact (i := true) rfl rfl
  have hcommits : Commits julyFailed julyListed true 2 (julyHearing.caseEvent .hearingBooked) :=
    ⟨rfl, nofun⟩
  have hids : ([julyCase].map CaseData.caseId).Nodup := by decide
  obtain ⟨hseeds, hkept, hshown, -⟩ :=
    display_fields_follow_schedule Rehearsal.oneVenue.venues julyListings hv hids hfailed
  obtain ⟨a, ha, hca⟩ := hseeds julyCase List.mem_cons_self hcoherent
  obtain ⟨b, hb, hcb⟩ := hkept julyListed julyCase.caseId a (.cons hstep .nil) ha hca
  obtain ⟨b', session, entry, hb', -, hsession, hentry, hsessionShown⟩ :=
    hshown julyListed true 2 _ hstep hcommits rfl
  obtain rfl : b = b' := Option.some.inj (hb.symm.trans hb')
  obtain rfl : julySession = session := Except.ok.inj hsession
  have hdate : String.ofList julySession.start.toLondon.date.text = "2024-07-01" := by
    decide +kernel
  have hbasket : julySession.start.toLondon.date = ⟨19905⟩ := by decide +kernel
  exact ⟨hcoherent, hfailed, hstep, hcommits, b, entry, hb, hcb, hentry, hsessionShown,
    hsessionShown.dateText.trans (congrArg some hdate),
    hsessionShown.basketDate.trans (congrArg some hbasket)⟩

end System

end HearingSync
