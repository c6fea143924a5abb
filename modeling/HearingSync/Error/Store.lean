import HearingSync.Identifier
/-!
What the case store answers when it does not do what it was asked.
-/

namespace HearingSync

/-- Why the case store did not read or write a case. `conflict`: the case is no longer at the
version that the update started from. -/
inductive StoreError where
  | conflict (caseId : CaseId) (expected : Nat)
  | notFound (caseId : CaseId)
  | unavailable (caseId : CaseId) (reason : String)
  | rejected (caseId : CaseId) (reason : String)
  deriving DecidableEq

namespace StoreError

def caseId : StoreError → CaseId
  | .conflict caseId _ => caseId
  | .notFound caseId => caseId
  | .unavailable caseId _ => caseId
  | .rejected caseId _ => caseId

def message : StoreError → String
  | .conflict caseId expected =>
    "case " ++ caseId.text ++ " modified concurrently since version " ++ toString expected
  | .notFound caseId => "case " ++ caseId.text ++ " not found"
  | .unavailable caseId reason =>
    "case store unavailable for case " ++ caseId.text ++ ": " ++ reason
  | .rejected caseId reason =>
    "case store rejected update to case " ++ caseId.text ++ ": " ++ reason

end StoreError

end HearingSync
