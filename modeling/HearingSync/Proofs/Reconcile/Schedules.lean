import HearingSync.Proofs.CaseServer.NoLostUpdate
import HearingSync.Proofs.Http.Hearings
import HearingSync.Proofs.Reconcile.CallDiscipline
import HearingSync.Proofs.Store.Strategies
import Mathlib.Data.List.Forall2
/-!
The schedule of a hearing that is to be listed, from the texts of the listing service to the check.
Main statement: exactly the good schedules go on to a write, and any other one ends the message with
its first fault before anything else is called.
-/

namespace HearingSync

open Runs (Run)

structure ScheduledDay.IsBookable (day : ScheduledDay) (start finish : Instant) : Prop where
  hasVenue : day.HasVenue
  startsAt : day.StartsAt start
  endsAt : day.EndsAt finish
  ordered : ¬finish < start

/-- What is wrong with the schedule of a hearing: the number of its days, else the first text that
is missing, else the order of the times. -/
inductive ScheduleFault (id : HearingId) : List ScheduledDay → ScheduleError → Prop where
  | count (schedule : List ScheduledDay) : schedule.length ≠ 1 →
      ScheduleFault id schedule (.sessionCount id schedule.length)
  | venue (day : ScheduledDay) : ¬day.HasVenue →
      ScheduleFault id [day] (.incompleteSession id .venue)
  | start (day : ScheduledDay) : day.HasVenue → (∀ t, ¬day.StartsAt t) →
      ScheduleFault id [day] (.incompleteSession id .start)
  | finish (day : ScheduledDay) (start : Instant) : day.HasVenue → day.StartsAt start →
      (∀ t, ¬day.EndsAt t) → ScheduleFault id [day] (.incompleteSession id .finish)
  | inverted (day : ScheduledDay) (start finish : Instant) : day.HasVenue → day.StartsAt start →
      day.EndsAt finish → finish < start → ScheduleFault id [day] (.invertedSession id start finish)

structure ScheduledDay.Books (day : ScheduledDay) (session : ListedSession) : Prop where
  start : day.StartsAt session.start
  finish : day.EndsAt session.finish
  venue : ∃ text, day.venue = some text ∧ session.venue.text = Text.trim text
  judge : session.judge.map Identifier.text = ScheduledDay.trimmed? day.judge
  panelMembers : session.panelMembers.map Identifier.text =
    (day.panelMembers.map Text.trim).filter (· ≠ "")
  channel : ∀ channel, session.channel = some channel ↔ day.IsHeldBy channel

namespace ScheduledDay

variable {day : ScheduledDay} {session : Session}

theorem StartsAt.unique {t u : Instant} (ht : day.StartsAt t) (hu : day.StartsAt u) : u = t := by
  obtain ⟨text, htext, ht⟩ := ht
  obtain ⟨text', htext', hu⟩ := hu
  cases htext.symm.trans htext'
  exact Except.ok.inj (hu.symm.trans ht)

theorem EndsAt.unique {t u : Instant} (ht : day.EndsAt t) (hu : day.EndsAt u) : u = t := by
  obtain ⟨text, htext, ht⟩ := ht
  obtain ⟨text', htext', hu⟩ := hu
  cases htext.symm.trans htext'
  exact Except.ok.inj (hu.symm.trans ht)

theorem trimmed?_eq_some_iff {text : Option String} {t : String} :
    trimmed? text = some t ↔ ∃ s, text = some s ∧ Text.trim s ≠ "" ∧ t = Text.trim s := by
  cases text with
  | none => simp [trimmed?]
  | some s =>
    by_cases h : Text.trim s = ""
    · simp [trimmed?, Option.filter, h]
    · have htrimmed : trimmed? (some s) = some (Text.trim s) := by simp [trimmed?, Option.filter, h]
      rw [htrimmed, Option.some_inj]
      constructor
      · rintro rfl
        exact ⟨s, rfl, h, rfl⟩
      · rintro ⟨s', ⟨⟩, -, rfl⟩
        rfl

theorem ToldBy.venue_of_some (h : day.ToldBy session) {venue : VenueCode}
    (hv : session.venue = some venue) :
    day.HasVenue ∧ ∃ text, day.venue = some text ∧ venue.text = Text.trim text := by
  have htext := h.venue
  rw [hv] at htext
  obtain ⟨s, hs, hne, ht⟩ := trimmed?_eq_some_iff.mp htext.symm
  exact ⟨⟨s, hs, hne⟩, s, hs, ht⟩

theorem ToldBy.no_venue_of_none (h : day.ToldBy session) (hv : session.venue = none) :
    ¬day.HasVenue := by
  rintro ⟨s, hs, hne⟩
  have htext := h.venue
  rw [hv, trimmed?_eq_some_iff.mpr ⟨s, hs, hne, rfl⟩] at htext
  cases htext

end ScheduledDay

theorem ScheduleFault.not_bookable {id : HearingId} {day : ScheduledDay} {e : ScheduleError}
    (h : ScheduleFault id [day] e) {start finish : Instant} : ¬day.IsBookable start finish := by
  rintro ⟨hvenue, hstart, hfinish, hordered⟩
  cases h with
  | count _ hlength => exact hlength rfl
  | venue _ hnone => exact hnone hvenue
  | start _ _ hnone => exact hnone start hstart
  | finish _ _ _ _ hnone => exact hnone finish hfinish
  | inverted _ s f _ hs hf hlt =>
    cases hstart.unique hs
    cases hfinish.unique hf
    exact hordered hlt

namespace HearingDetail

variable {detail : HearingDetail} {session : Session} {venue : VenueCode} {start finish : Instant}

theorem singleSession_of_no_venue (h : detail.sessions = [session]) (hv : session.venue = none) :
    detail.singleSession = .error (.incompleteSession detail.hearingId .venue) := by
  simp [singleSession, h, hv]

theorem singleSession_of_no_start (h : detail.sessions = [session])
    (hv : session.venue = some venue) (hs : session.start = none) :
    detail.singleSession = .error (.incompleteSession detail.hearingId .start) := by
  simp [singleSession, h, hv, hs]

theorem singleSession_of_no_finish (h : detail.sessions = [session])
    (hv : session.venue = some venue) (hs : session.start = some start)
    (hf : session.finish = none) :
    detail.singleSession = .error (.incompleteSession detail.hearingId .finish) := by
  simp [singleSession, h, hv, hs, hf]

theorem singleSession_of_complete (h : detail.sessions = [session])
    (hv : session.venue = some venue) (hs : session.start = some start)
    (hf : session.finish = some finish) :
    detail.singleSession =
      if finish < start then .error (.invertedSession detail.hearingId start finish)
      else .ok ⟨start, finish, venue, session.judge, session.panelMembers, session.channel⟩ := by
  simp [singleSession, h, hv, hs, hf]

theorem singleSession_of_count (h : detail.sessions.length ≠ 1) :
    detail.singleSession = .error (.sessionCount detail.hearingId detail.sessions.length) := by
  unfold singleSession
  split
  · rename_i hone
    rw [hone] at h
    exact absurd rfl h
  · rfl

/-- The check of the one session that was made of a day. -/
theorem singleSession_of_day {day : ScheduledDay} (h : detail.sessions = [session])
    (hday : day.ToldBy session) :
    (∃ listed, detail.singleSession = .ok listed ∧ day.Books listed ∧
      day.IsBookable listed.start listed.finish) ∨
    ∃ e, detail.singleSession = .error e ∧ ScheduleFault detail.hearingId [day] e := by
  rcases hv : session.venue with _ | venue
  · exact .inr ⟨_, singleSession_of_no_venue h hv, .venue day (hday.no_venue_of_none hv)⟩
  obtain ⟨hasVenue, hvenue⟩ := hday.venue_of_some hv
  rcases hs : session.start with _ | start
  · have hnone : ∀ t, ¬day.StartsAt t := by
      intro t ht
      cases hs.symm.trans ((hday.start t).mpr ht)
    exact .inr ⟨_, singleSession_of_no_start h hv hs, .start day hasVenue hnone⟩
  have hstart := (hday.start start).mp hs
  rcases hf : session.finish with _ | finish
  · have hnone : ∀ t, ¬day.EndsAt t := by
      intro t ht
      cases hf.symm.trans ((hday.finish t).mpr ht)
    exact .inr ⟨_, singleSession_of_no_finish h hv hs hf, .finish day start hasVenue hstart hnone⟩
  have hfinish := (hday.finish finish).mp hf
  have hcomplete := singleSession_of_complete h hv hs hf
  by_cases hlt : finish < start
  · rw [if_pos hlt] at hcomplete
    exact .inr ⟨_, hcomplete, .inverted day start finish hasVenue hstart hfinish hlt⟩
  · rw [if_neg hlt] at hcomplete
    exact .inl ⟨_, hcomplete,
      ⟨hstart, hfinish, hvenue, hday.judge, hday.panelMembers, hday.channel⟩,
      ⟨hasVenue, hstart, hfinish, hlt⟩⟩

/-- The check of a detail, by the schedule that its sessions were made of. -/
theorem singleSession_cases {schedule : List ScheduledDay}
    (h : List.Forall₂ ScheduledDay.ToldBy schedule detail.sessions) :
    (∃ day listed, schedule = [day] ∧ detail.singleSession = .ok listed ∧ day.Books listed ∧
      day.IsBookable listed.start listed.finish) ∨
    ∃ e, detail.singleSession = .error e ∧ ScheduleFault detail.hearingId schedule e := by
  by_cases hone : schedule.length = 1
  · obtain ⟨day, rfl⟩ := List.length_eq_one_iff.mp hone
    obtain ⟨session, rest, hday, hrest, hsessions⟩ := List.forall₂_cons_left_iff.mp h
    obtain rfl := List.forall₂_nil_left_iff.mp hrest
    rcases singleSession_of_day hsessions hday with ⟨listed, hlisted⟩ | hfault
    · exact .inl ⟨day, listed, rfl, hlisted⟩
    · exact .inr hfault
  · refine .inr ⟨_, singleSession_of_count (h.length_eq ▸ hone), ?_⟩
    rw [← h.length_eq]
    exact .count schedule hone

end HearingDetail

theorem HearingAnswer.toldBy_detail (answer : HearingAnswer) (id : HearingId) :
    List.Forall₂ ScheduledDay.ToldBy answer.response.schedule (answer.detail id).sessions :=
  List.forall₂_map_right_iff.mpr (List.forall₂_same.mpr fun day _ => day.toldBy_session)

theorem HearingAnswer.disposition_detail {answer : HearingAnswer} (id : HearingId)
    (hstatus : answer.request.status.isListingRelevant = true)
    (hlisting : answer.response.listing = some .fixed) :
    (answer.detail id).disposition = .listedUpdate := by
  simp [HearingDetail.disposition, classify, HearingAnswer.detail, hstatus, hlisting]

theorem WriteCalls.ne_nil {id : CaseId} {strategy : WriteStrategy} {calls : List Call}
    {r : Except ReconcileError WriteOutcome} (h : WriteCalls id strategy calls r) : calls ≠ [] := by
  cases h with
  | unread e => exact List.cons_ne_nil _ _
  | failed a lookups e _ => exact List.cons_ne_nil _ _
  | submitted a lookups update answer _ => exact List.concat_ne_nil _ _
  | transacted lookups asked answer last _ _ => exact List.concat_ne_nil _ _

namespace Services

variable (services : Services) (settings : Settings) (message : HearingMessage)

def process : Except ReconcileError Outcome × List Call :=
  (HearingSync.process services.collaborators settings message).run.run []

variable {services settings message}

theorem detailCalls_process {detail : HearingDetail}
    (h : services.hearing [] message.hearingId = .ok detail) :
    ∃ rest,
      (services.process settings message).2 = .hearing message.hearingId (.ok detail) :: rest ∧
      DetailCalls settings message detail rest (services.process settings message).1 := by
  have hrun : Run (HearingSync.process services.collaborators settings message).run ([], ())
    (services.process settings message).1 ((services.process settings message).2, ()) := rfl
  generalize services.process settings message = p at hrun ⊢
  obtain ⟨result, calls⟩ := p
  cases Reconcile.handled_of_process quiet hrun with
  | unfetched e t _ hf hu => cases h.symm.trans (run_call hf).1.symm
  | fetched detail' t v _ _ hf hv hs =>
    cases h.symm.trans (run_call hf).1.symm
    obtain ⟨rest, hu, hrest⟩ := calls_of_settled hs
    have hstart : v.1 = [.hearing message.hearingId (.ok detail)] := hv.trans (run_call hf).2
    rw [hstart] at hu
    exact ⟨rest, hu, hrest⟩

end Services

/-- A listed hearing is written exactly where its schedule is good; any other schedule ends the
message with its first fault, and nothing but the hearing was asked for. -/
theorem listed_schedules_checked (c : Client) (services : Services) (settings : Settings)
    (message : HearingMessage) (r : Response) (answer : HearingAnswer)
    (hheard : c.HeardFrom message.hearingId r (services.hearing [] message.hearingId))
    (hsuccess : r.isSuccess = true)
    (hanswer : Json.decodeText HearingAnswer.decode r.body = .ok answer)
    (hstatus : answer.request.status.isListingRelevant = true)
    (hlisting : answer.response.listing = some .fixed) :
    ∃ detail, services.hearing [] message.hearingId = .ok detail ∧
      List.Forall₂ ScheduledDay.ToldBy answer.response.schedule detail.sessions ∧
      ((∃ rest w, WriteCalls message.caseId settings.strategy rest w ∧
          services.process settings message = (w.map (WriteOutcome.outcome .listedUpdate),
            .hearing message.hearingId (.ok detail) :: rest)) ↔
        ∃ day start finish, answer.response.schedule = [day] ∧ day.IsBookable start finish) ∧
      ((¬∃ day start finish, answer.response.schedule = [day] ∧ day.IsBookable start finish) →
        ∃ e, ScheduleFault detail.hearingId answer.response.schedule e ∧
          services.process settings message =
            (.error (.schedule e), [.hearing message.hearingId (.ok detail)])) ∧
      ∀ session, detail.singleSession = .ok session →
        ∃ day, answer.response.schedule = [day] ∧ day.Books session := by
  have hfetched : services.hearing [] message.hearingId = .ok (answer.detail message.hearingId) :=
    hheard.eq_heard.trans (Client.heard_of_decoded hsuccess hanswer)
  have hdays := answer.toldBy_detail message.hearingId
  have hlisted := HearingAnswer.disposition_detail message.hearingId hstatus hlisting
  obtain ⟨rest, hcalls, hdetail⟩ : ∃ rest, (services.process settings message).2 =
      .hearing message.hearingId (.ok (answer.detail message.hearingId)) :: rest ∧
      DetailCalls settings message (answer.detail message.hearingId) rest
        (services.process settings message).1 := Services.detailCalls_process hfetched
  refine ⟨_, hfetched, hdays, ?_⟩
  rcases HearingDetail.singleSession_cases hdays with
    ⟨day, listed, hschedule, hsession, hbooks, hbookable⟩ | ⟨e, hsession, hfault⟩
  · have hgood : ∃ day start finish, answer.response.schedule = [day] ∧
        day.IsBookable start finish := ⟨day, _, _, hschedule, hbookable⟩
    have hwrite : (answer.detail message.hearingId).CallsForWrite :=
      ⟨by rw [hlisted]; rfl, fun _ => ⟨listed, hsession⟩⟩
    obtain ⟨w, hw, hresult⟩ := hdetail.of_callsForWrite hwrite
    rw [hlisted] at hresult
    refine ⟨⟨fun _ => hgood, fun _ => ⟨rest, w, hw, Prod.ext hresult hcalls⟩⟩,
      fun hbad => absurd hgood hbad, ?_⟩
    intro session h
    cases hsession.symm.trans h
    exact ⟨day, hschedule, hbooks⟩
  · have hbad : ¬∃ day start finish, answer.response.schedule = [day] ∧
        day.IsBookable start finish := by
      rintro ⟨day, start, finish, hschedule, hbookable⟩
      exact (hschedule ▸ hfault).not_bookable hbookable
    obtain ⟨rfl, hresult⟩ := hdetail.of_badSchedule (by rw [hlisted]; rfl) hsession
    refine ⟨⟨?_, fun hgood => absurd hgood hbad⟩, fun _ => ⟨e, hfault, Prod.ext hresult hcalls⟩, ?_⟩
    · rintro ⟨rest, w, hw, hprocess⟩
      have hnone : rest = [] := (List.cons.inj ((congrArg Prod.snd hprocess).symm.trans hcalls)).2
      exact absurd hnone hw.ne_nil
    · intro session h
      cases hsession.symm.trans h

namespace Services

open Rehearsal (listingMessage)

def oneDay : ScheduledDay where
  start := some "2024-10-04T10:00:00Z"
  finish := some "2024-10-04T11:00:00"
  venue := some " 372653 "
  judge := none
  panelMembers := []
  attendees := []

def oneDayAnswer : HearingAnswer where
  request := { hearingId := none, status := .listed, reasons := [] }
  response := { listing := some .fixed, schedule := [oneDay] }

def oneDayBody : String :=
  "\x7b\"requestDetails\":\x7b\"status\":\"LISTED\"\x7d,\"hearingResponse\":" ++
    "\x7b\"listingStatus\":\"FIXED\",\"hearingDaySchedule\":[\x7b\"hearingStartDateTime\":" ++
    "\"2024-10-04T10:00:00Z\",\"hearingEndDateTime\":\"2024-10-04T11:00:00\"," ++
    "\"hearingVenueEpimsId\":\" 372653 \"\x7d]\x7d\x7d"

theorem oneDayBody_decodes :
    Json.decodeText HearingAnswer.decode oneDayBody = .ok oneDayAnswer := by decide +kernel

theorem oneDay_isBookable : ∃ start finish, oneDay.IsBookable start finish := by
  refine ⟨⟨{ date := ⟨20000⟩, second := 36000, nano := 0 }⟩,
    ⟨{ date := ⟨20000⟩, second := 39600, nano := 0 }⟩, ?_⟩
  exact
    { hasVenue := ⟨" 372653 ", rfl, by decide⟩
      startsAt := ⟨"2024-10-04T10:00:00Z", rfl, by rfl⟩
      endsAt := ⟨"2024-10-04T11:00:00", rfl, by rfl⟩
      ordered := by decide }

def oneDayServices : Services where
  hearing _ id := Client.heard id ⟨200, oneDayBody⟩
  venue? _ _ := .ok none
  judge? _ _ := .ok none
  now _ := Rehearsal.oneVenue.now
  fetch _ id := .error (.notFound id)
  submit _ base _ := .error (.notFound base.data.caseId)
  transact _ id := .ends (.error (.notFound id))
  storeName := ""

theorem listed_schedules_checked_oneDay :
    Traffic.plainClient.HeardFrom listingMessage.hearingId ⟨200, oneDayBody⟩
      (oneDayServices.hearing [] listingMessage.hearingId) ∧
    ∃ detail rest w, WriteCalls listingMessage.caseId .readModifyWrite rest w ∧
      oneDayServices.process { strategy := .readModifyWrite } listingMessage =
        (w.map (WriteOutcome.outcome .listedUpdate),
          .hearing listingMessage.hearingId (.ok detail) :: rest) := by
  have hrequest : Traffic.plainClient.request .get ("hearing/" ++ listingMessage.hearingId.text)
      none = .ok (Traffic.plainRequest .get ["hearing", "1"] none) :=
    Traffic.plainClient_request .get none (by decide +kernel) (by decide +kernel)
      (by decide +kernel)
  have hfetched : oneDayServices.hearing [] listingMessage.hearingId =
      Client.heard listingMessage.hearingId ⟨200, oneDayBody⟩ := by simp only [oneDayServices]
  have hheard := hfetched ▸ Client.heardFrom_of_request rfl hrequest ⟨200, oneDayBody⟩
  have hsuccess : (⟨200, oneDayBody⟩ : Response).isSuccess = true := by decide
  have hstatus : oneDayAnswer.request.status.isListingRelevant = true := by decide
  obtain ⟨detail, -, -, ⟨-, hwritten⟩, -⟩ := listed_schedules_checked Traffic.plainClient
    oneDayServices { strategy := .readModifyWrite } listingMessage ⟨200, oneDayBody⟩ oneDayAnswer
    hheard hsuccess oneDayBody_decodes hstatus rfl
  obtain ⟨start, finish, hbookable⟩ := oneDay_isBookable
  obtain ⟨rest, w, hw, hprocess⟩ := hwritten ⟨oneDay, start, finish, rfl, hbookable⟩
  exact ⟨hheard, detail, rest, w, hw, hprocess⟩

end Services

end HearingSync
