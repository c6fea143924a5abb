import HearingSync.Detail
import HearingSync.Error.Client
import HearingSync.Error.Store
/-!
Why a message was not handled, and whether handing it in again can help. A schedule or a venue that
is wrong stays wrong; a service that failed may answer the next time.
-/

namespace HearingSync

inductive Lookup where
  | venue (code : VenueCode)
  | judge (code : PersonalCode)
  deriving DecidableEq

def Lookup.label : Lookup → String
  | .venue code => "epims id " ++ code.text
  | .judge code => "judicial code " ++ code.text

/-- Why a message was not handled. `unknownVenue`: no active venue has the code. -/
inductive ReconcileError where
  | schedule (e : ScheduleError)
  | unknownVenue (caseId : CaseId) (hearingId : HearingId) (code : VenueCode)
  | fetch (hearingId : HearingId) (e : ClientError)
  | lookup (what : Lookup) (e : ClientError)
  | store (e : StoreError)
  deriving DecidableEq

namespace ReconcileError

def kind : ReconcileError → String
  | .schedule _ => "integrity"
  | .unknownVenue _ _ _ => "mapping"
  | .fetch _ _ => "fetch"
  | .lookup _ _ => "resolver"
  | .store (.conflict _ _) => "conflict"
  | .store (.unavailable _ _) => "store_unavailable"
  | .store (.notFound _) => "case_not_found"
  | .store (.rejected _ _) => "store_rejected"

def message : ReconcileError → String
  | .schedule e => "data integrity error: " ++ e.message
  | .unknownVenue caseId hearingId code =>
    "invalid epims id " ++ code.text ++ ": unable to find active venue for hearing " ++
      hearingId.text ++ " on case " ++ caseId.text
  | .fetch hearingId e => "failed to fetch hearing " ++ hearingId.text ++ ": " ++ e.message
  | .lookup what e => "failed to resolve " ++ what.label ++ ": " ++ e.message
  | .store (.conflict caseId expected) =>
    "case store conflict: " ++ (StoreError.conflict caseId expected).message
  | .store (.unavailable caseId reason) =>
    "case store unavailable: " ++ (StoreError.unavailable caseId reason).message
  | .store (.notFound caseId) => "case " ++ caseId.text ++ " not found"
  | .store (.rejected caseId reason) =>
    "case store rejected update: " ++ (StoreError.rejected caseId reason).message

/-- Whether the same message may succeed at another time. -/
def isRetryable : ReconcileError → Bool
  | .fetch _ e => !e.isInvalidDetail
  | .lookup _ e => !e.isInvalidDetail
  | .store (.conflict _ _) => true
  | .store (.unavailable _ _) => true
  | _ => false

end ReconcileError

end HearingSync
