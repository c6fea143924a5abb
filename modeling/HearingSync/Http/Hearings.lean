import HearingSync.Detail
import HearingSync.Http.Client
/-!
The listing service: what it answers about a hearing, and the detail made of it. Blank codes and
times that cannot be read are left out; the detail itself says whether a session is complete.
-/

namespace HearingSync

structure Attendee where
  partyId : Option String
  subChannel : Option String
  deriving DecidableEq, Repr

structure ScheduledDay where
  start : Option String
  finish : Option String
  venue : Option String
  judge : Option String
  panelMembers : List String
  attendees : List Attendee
  deriving DecidableEq, Repr

structure RequestPart where
  hearingId : Option String
  status : RequestStatus
  reasons : List CancellationReason
  deriving DecidableEq, Repr

structure ResponsePart where
  listing : Option ListingStatus := none
  schedule : List ScheduledDay := []
  deriving DecidableEq, Repr

structure HearingAnswer where
  request : RequestPart
  response : ResponsePart
  deriving DecidableEq, Repr

namespace Attendee

def record : Record Attendee :=
  Record.const Attendee.mk |>.app (.optional "partyId" Json.decodeString)
    |>.app (.optional "hearingSubChannel" Json.decodeString)

end Attendee

namespace ScheduledDay

def record : Record ScheduledDay :=
  Record.const ScheduledDay.mk |>.app (.optional "hearingStartDateTime" Json.decodeString)
    |>.app (.optional "hearingEndDateTime" Json.decodeString)
    |>.app (.optional "hearingVenueEpimsId" Json.decodeString)
    |>.app (.optional "hearingJudgeId" Json.decodeString)
    |>.app (.defaulted "panelMemberIds" (Json.decodeList Json.decodeString) [])
    |>.app (.defaulted "attendees" (Json.decodeList Attendee.record.decode) [])

def instant? (text : Option String) : Option Instant :=
  text.bind fun s => (Timestamp.readInstant s).toOption

/-- The channel of the first attendee whose code is known. -/
def channel? (attendees : List Attendee) : Option Channel :=
  attendees.findSome? fun a => a.subChannel.bind Channel.ofSubChannel?

def session (d : ScheduledDay) : Session :=
  { start := instant? d.start
    finish := instant? d.finish
    venue := d.venue.bind Identifier.ofText?
    judge := d.judge.bind Identifier.ofText?
    panelMembers := d.panelMembers.filterMap Identifier.ofText?
    channel := channel? d.attendees }

end ScheduledDay

namespace RequestPart

def record : Record RequestPart :=
  Record.const RequestPart.mk |>.app (.optional "hearingRequestID" Json.decodeString)
    |>.app (.required "status" RequestStatus.decode)
    |>.app (.defaulted "cancellationReasonCodes" (Json.decodeList CancellationReason.decode) [])

end RequestPart

namespace ResponsePart

def record : Record ResponsePart :=
  Record.const ResponsePart.mk |>.app (.optional "listingStatus" ListingStatus.decode)
    |>.app (.defaulted "hearingDaySchedule" (Json.decodeList ScheduledDay.record.decode) [])

end ResponsePart

namespace HearingAnswer

def record : Record HearingAnswer :=
  Record.const HearingAnswer.mk |>.app (.required "requestDetails" RequestPart.record.decode)
    |>.app (.defaulted "hearingResponse" ResponsePart.record.decode {})

def decode : Decoder HearingAnswer := record.decode

/-- The detail of a hearing that was asked for by that id; the answer's own id counts first. -/
def detail (a : HearingAnswer) (requested : HearingId) : HearingDetail :=
  { hearingId := (a.request.hearingId.bind Identifier.ofText?).getD requested
    status := a.request.status
    listing := a.response.listing
    reasons := a.request.reasons
    sessions := a.response.schedule.map ScheduledDay.session }

end HearingAnswer

def Client.hearing (c : Client) (id : HearingId) : ExceptT ClientError Exchange HearingDetail := do
  if !c.hasRuntime then throw (.noRuntime "GET /hearing")
  let path := "hearing/" ++ id.text
  let endpoint := "GET /" ++ path
  match ← c.send .get path none with
  | .error cause => throw (.transport endpoint cause)
  | .ok r =>
    let answer ← liftExcept (Client.readBody endpoint HearingAnswer.decode r)
    return answer.detail id

end HearingSync
