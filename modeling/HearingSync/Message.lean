import HearingSync.Detail
/-!
The message by which the listing service announces a change of a hearing.
-/

namespace HearingSync

structure HearingMessage where
  serviceCode : String
  caseId : CaseId
  hearingId : HearingId
  reportedStatus : RequestStatus
  deploymentId : Option String := none
  deriving DecidableEq

namespace HearingMessage

def record : Record HearingMessage :=
  Record.const HearingMessage.mk |>.app (.required "hmctsServiceCode" Json.decodeString)
    |>.app (.required "caseId" Identifier.decode)
    |>.app (.required "hearingId" Identifier.decode)
    |>.app (.required "reportedStatus" RequestStatus.decode)
    |>.app (.optional "hmctsDeploymentId" Json.decodeString)

def decode : Decoder HearingMessage := record.decode

def encode (m : HearingMessage) : Json :=
  .object [("hmctsServiceCode", .string m.serviceCode),
    ("caseId", m.caseId.encode),
    ("hearingId", m.hearingId.encode),
    ("reportedStatus", m.reportedStatus.encode),
    ("hmctsDeploymentId", .ofOption .string m.deploymentId)]

end HearingMessage

end HearingSync
