import HearingSync.Case
/-!
Case documents in JSON. What is read back after writing is what was written.
-/

namespace HearingSync

namespace Venue

def record : Record Venue :=
  Record.const Venue.mk |>.app (.required "venueId" Json.decodeString)
    |>.app (.required "name" Json.decodeString)
    |>.app (.optional "region" Json.decodeString)

def decode : Decoder Venue := record.decode

def encode (v : Venue) : Json :=
  .object [("venueId", .string v.venueId), ("name", .string v.name),
    ("region", .ofOption .string v.region)]

end Venue

namespace JudicialUser

def record : Record JudicialUser :=
  Record.const JudicialUser.mk |>.app (.required "idamId" Json.decodeString)
    |>.app (.required "personalCode" Identifier.decode)
    |>.app (.required "displayName" Json.decodeString)

def decode : Decoder JudicialUser := record.decode

def encode (u : JudicialUser) : Json :=
  .object [("idamId", .string u.idamId), ("personalCode", u.personalCode.encode),
    ("displayName", .string u.displayName)]

end JudicialUser

namespace Panel

def record : Record Panel :=
  Record.const Panel.mk |>.app (.optional "assignedTo" JudicialUser.decode)
    |>.app (.defaulted "panelMembers" (Json.decodeList JudicialUser.decode) [])

def decode : Decoder Panel := record.decode

def encode (p : Panel) : Json :=
  .object [("assignedTo", .ofOption JudicialUser.encode p.assignedTo),
    ("panelMembers", .ofList JudicialUser.encode p.members)]

end Panel

namespace Hearing

def record : Record Hearing :=
  Record.const Hearing.mk |>.app (.required "hearingId" Identifier.decode)
    |>.app (.optional "epimsId" Identifier.decode)
    |>.app (.optional "venue" Venue.decode)
    |>.app (.optional "start" WallClock.decode)
    |>.app (.optional "end" WallClock.decode)
    |>.app (.optional "hearingDate" Json.decodeString)
    |>.app (.optional "time" Json.decodeString)
    |>.app (.optional "hearingStatus" HearingStatus.decode)
    |>.app (.optional "hearingChannel" Channel.decode)
    |>.app (.optional "panel" Panel.decode)

def decode : Decoder Hearing := record.decode

def encode (h : Hearing) : Json :=
  .object [("hearingId", h.hearingId.encode),
    ("epimsId", .ofOption Identifier.encode h.venueCode),
    ("venue", .ofOption Venue.encode h.venue),
    ("start", .ofOption WallClock.encode h.start),
    ("end", .ofOption WallClock.encode h.finish),
    ("hearingDate", .ofOption .string h.dateText),
    ("time", .ofOption .string h.timeText),
    ("hearingStatus", .ofOption HearingStatus.encode h.status),
    ("hearingChannel", .ofOption Channel.encode h.channel),
    ("panel", .ofOption Panel.encode h.panel)]

end Hearing

namespace WorkBasket

def record : Record WorkBasket :=
  Record.const WorkBasket.mk |>.app (.optional "hearingDate" Date.decode)
    |>.app (.optional "hearingEpimsId" Identifier.decode)
    |>.app (.optional "hearingDateIssued" Json.decodeString)

def decode : Decoder WorkBasket := record.decode

def encode (b : WorkBasket) : Json :=
  .object [("hearingDate", .ofOption Date.encode b.date),
    ("hearingEpimsId", .ofOption Identifier.encode b.venueCode),
    ("hearingDateIssued", .ofOption .string b.issued)]

end WorkBasket

namespace CaseData

def record : Record CaseData :=
  Record.const CaseData.mk |>.app (.required "caseId" Identifier.decode)
    |>.app (.required "state" CaseState.decode)
    |>.app (.defaulted "hearings" (Json.decodeList Hearing.decode) [])
    |>.app (.defaulted "workBasket" WorkBasket.decode {})
    |>.app (.optional "dwpState" DownstreamState.decode)

def decode : Decoder CaseData := record.decode

def encode (c : CaseData) : Json :=
  .object [("caseId", c.caseId.encode),
    ("state", c.state.encode),
    ("hearings", .ofList Hearing.encode c.hearings),
    ("workBasket", c.workBasket.encode),
    ("dwpState", .ofOption DownstreamState.encode c.downstream)]

end CaseData

namespace CaseSnapshot

def record : Record CaseSnapshot :=
  Record.const CaseSnapshot.mk |>.app (.required "data" CaseData.decode)
    |>.app (.required "version" Json.decodeNat64)

def decode : Decoder CaseSnapshot := record.decode

def encode (s : CaseSnapshot) : Json :=
  .object [("data", s.data.encode), ("version", .ofNat s.version)]

end CaseSnapshot

namespace CaseEvent

def record : Record CaseEvent :=
  Record.const CaseEvent.mk |>.app (.required "eventType" WorkflowEvent.decode)
    |>.app (.required "summary" Json.decodeString)
    |>.app (.required "description" Json.decodeString)

def decode : Decoder CaseEvent := record.decode

def encode (e : CaseEvent) : Json :=
  .object [("eventType", e.type.encode), ("summary", .string e.summary),
    ("description", .string e.description)]

end CaseEvent

namespace CaseUpdate

def record : Record CaseUpdate :=
  Record.const CaseUpdate.mk |>.app (.required "data" CaseData.decode)
    |>.app (.required "event" CaseEvent.decode)

def decode : Decoder CaseUpdate := record.decode

def encode (u : CaseUpdate) : Json :=
  .object [("data", u.data.encode), ("event", u.event.encode)]

end CaseUpdate

end HearingSync
