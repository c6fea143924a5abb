import HearingSync.Message
import HearingSync.Settings
/-!
The gate in front of the reconciliation: messages for other services, and where the filter is on
for other deployments, are not let in.
-/

namespace HearingSync

inductive Refusal where
  | serviceCode (expected actual : String)
  | deploymentId (expected actual : Option String)
  deriving DecidableEq, Repr

def Refusal.encode : Refusal → Json
  | .serviceCode expected actual =>
    .object [("reason", .string "service_code"), ("expected", .string expected),
      ("actual", .string actual)]
  | .deploymentId expected actual =>
    .object [("reason", .string "deployment_id"), ("expected", .ofOption .string expected),
      ("actual", .ofOption .string actual)]

structure Gate where
  serviceCode : String
  deploymentId : Option String
  deploymentFilter : Bool
  deriving DecidableEq, Repr

def Settings.gate (s : Settings) : Gate :=
  { serviceCode := s.serviceCode, deploymentId := s.deploymentId,
    deploymentFilter := s.deploymentFilter }

/-- The reason to refuse a message, if there is one; the service code counts first. -/
def Gate.refusal? (g : Gate) (m : HearingMessage) : Option Refusal :=
  if m.serviceCode ≠ g.serviceCode then some (.serviceCode g.serviceCode m.serviceCode)
  else if g.deploymentFilter = true ∧ m.deploymentId ≠ g.deploymentId then
    some (.deploymentId g.deploymentId m.deploymentId)
  else none

end HearingSync
