import HearingSync.Panel
import HearingSync.Time.London
/-!
What a listed session changes on a case: the entry of its hearing, which is updated in place or
added at the end, and the work basket. All lookups come before the first change.
-/

namespace HearingSync

variable {m : Type → Type} [Monad m]

/-- Date and venue of the session; a stamp that is there already is kept. -/
def WorkBasket.listed (venue : VenueCode) (localStart : WallClock) (previous : WorkBasket)
    (now : Instant) : WorkBasket :=
  { date := some localStart.date
    venueCode := some venue
    issued := some (previous.issued.getD now.toLondon.issuedText) }

/-- The hearing with the session's venue, times in London, channel and panel. A channel or a panel
that the session does not have stays as it was. -/
def Hearing.withSession (h : Hearing) (session : ListedSession) (venue : Venue)
    (panel : Option Panel) : Hearing :=
  let start := session.start.toLondon
  { h with
    venueCode := some session.venue
    venue := some venue
    start := some start
    finish := some session.finish.toLondon
    dateText := some start.hearingDateText
    timeText := some start.hearingTimeText
    channel := session.channel.orElse fun _ => h.channel
    panel := panel.orElse fun _ => h.panel }

structure ListedUpdate where
  hearings : List Hearing
  workBasket : WorkBasket
  panel : Option Panel
  deriving DecidableEq

namespace ListedUpdate

def of (hearingId : HearingId) (session : ListedSession) (venue : Venue) (panel : Option Panel)
    (now : Instant) (hearings : List Hearing) (previous : WorkBasket) : ListedUpdate :=
  { hearings := Hearing.upsert hearingId (·.withSession session venue panel) hearings
    workBasket := .listed session.venue session.start.toLondon previous now
    panel }

def resolve (reference : ReferenceData m) (note : Note → m Unit) (panelEnabled : Bool)
    (caseId : CaseId) (detail : HearingDetail) (hearings : List Hearing) (previous : WorkBasket) :
    ExceptT ReconcileError m ListedUpdate := do
  match detail.singleSession with
  | .error e => throw (.schedule e)
  | .ok session =>
    match ← (reference.venue? session.venue).adapt (.lookup (.venue session.venue)) with
    | none => throw (.unknownVenue caseId detail.hearingId session.venue)
    | some venue =>
      let panel ←
        if panelEnabled then Panel.resolve reference.judge? note session else pure none
      let now ← reference.now
      return of detail.hearingId session venue panel now hearings previous

end ListedUpdate

end HearingSync
