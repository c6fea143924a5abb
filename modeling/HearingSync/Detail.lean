import HearingSync.Vocabulary.Listing
import HearingSync.Time.Stored
/-!
The authoritative detail of a hearing, and the one session that a listed hearing has to have. A
detail may hold a half-filled schedule; only `singleSession` asks for more.
-/

namespace HearingSync

def Identifier.encode {k : IdentifierKind} (a : Identifier k) : Json := .string a.text

def Identifier.decode {k : IdentifierKind} : Decoder (Identifier k) := Json.decodeIdentifier k

structure Session where
  start : Option Instant
  finish : Option Instant
  venue : Option VenueCode
  judge : Option PersonalCode
  panelMembers : List PersonalCode
  channel : Option Channel
  deriving DecidableEq

structure HearingDetail where
  hearingId : HearingId
  status : RequestStatus
  listing : Option ListingStatus
  reasons : List CancellationReason
  sessions : List Session
  deriving DecidableEq

structure ListedSession where
  start : Instant
  finish : Instant
  venue : VenueCode
  judge : Option PersonalCode
  panelMembers : List PersonalCode
  channel : Option Channel
  deriving DecidableEq

inductive SessionField where
  | venue
  | start
  | finish
  deriving DecidableEq, Repr

def SessionField.label : SessionField → String
  | .venue => "venue"
  | .start => "start time"
  | .finish => "end time"

inductive ScheduleError where
  | sessionCount (hearingId : HearingId) (count : Nat)
  | incompleteSession (hearingId : HearingId) (field : SessionField)
  | invertedSession (hearingId : HearingId) (start finish : Instant)
  deriving DecidableEq

def ScheduleError.message : ScheduleError → String
  | .sessionCount hearingId count =>
    "invalid hearing day schedule for hearing " ++ hearingId.text ++
      ": should have 1 session but instead has " ++ toString count ++ " sessions"
  | .incompleteSession hearingId field =>
    "session for hearing " ++ hearingId.text ++ " has no " ++ field.label
  | .invertedSession hearingId start finish =>
    "session for hearing " ++ hearingId.text ++ " ends at " ++ finish.message ++
      " before it starts at " ++ start.message

namespace HearingDetail

/-- The only session, if it has venue, start and end and does not end before it starts. -/
def singleSession (d : HearingDetail) : Except ScheduleError ListedSession :=
  match d.sessions with
  | [s] =>
    match s.venue, s.start, s.finish with
    | none, _, _ => .error (.incompleteSession d.hearingId .venue)
    | some _, none, _ => .error (.incompleteSession d.hearingId .start)
    | some _, some _, none => .error (.incompleteSession d.hearingId .finish)
    | some venue, some start, some finish =>
      if finish < start then .error (.invertedSession d.hearingId start finish)
      else
        .ok { start, finish, venue, judge := s.judge, panelMembers := s.panelMembers,
              channel := s.channel }
  | sessions => .error (.sessionCount d.hearingId sessions.length)

end HearingDetail

namespace Session

def record : Record Session :=
  Record.const Session.mk |>.app (.optional "start" Instant.decode)
    |>.app (.optional "end" Instant.decode)
    |>.app (.optional "venue" Identifier.decode)
    |>.app (.optional "judge" Identifier.decode)
    |>.app (.defaulted "panel_members" (Json.decodeList Identifier.decode) [])
    |>.app (.optional "channel" Channel.decode)

def decode : Decoder Session := record.decode

def encode (s : Session) : Json :=
  .object [("start", .ofOption Instant.encode s.start),
    ("end", .ofOption Instant.encode s.finish),
    ("venue", .ofOption Identifier.encode s.venue),
    ("judge", .ofOption Identifier.encode s.judge),
    ("panel_members", .ofList Identifier.encode s.panelMembers),
    ("channel", .ofOption Channel.encode s.channel)]

end Session

namespace HearingDetail

def record : Record HearingDetail :=
  Record.const HearingDetail.mk |>.app (.required "hearing_id" Identifier.decode)
    |>.app (.required "status" RequestStatus.decode)
    |>.app (.nullable "listing_status" ListingStatus.decode)
    |>.app (.defaulted "cancellation_reasons" (Json.decodeList CancellationReason.decode) [])
    |>.app (.defaulted "sessions" (Json.decodeList Session.decode) [])

def decode : Decoder HearingDetail := record.decode

def encode (d : HearingDetail) : Json :=
  .object [("hearing_id", d.hearingId.encode),
    ("status", d.status.encode),
    ("listing_status", .ofOption ListingStatus.encode d.listing),
    ("cancellation_reasons", .ofList CancellationReason.encode d.reasons),
    ("sessions", .ofList Session.encode d.sessions)]

end HearingDetail

def ListedSession.encode (s : ListedSession) : Json :=
  Session.encode
    { start := some s.start, finish := some s.finish, venue := some s.venue, judge := s.judge,
      panelMembers := s.panelMembers, channel := s.channel }

end HearingSync
