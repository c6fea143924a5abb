import HearingSync.Rule
import HearingSync.Text.Blank
import HearingSync.Text.Quoted
/-!
Settings of the reconciliation, with their defaults, and how they are read from the environment.
-/

namespace HearingSync

abbrev Environment := String → Option String

/-- How updates reach the case store: in one transaction that calls back for the update, or by
reading, changing and submitting. -/
inductive WriteStrategy where
  | callback
  | readModifyWrite
  deriving DecidableEq, Repr

structure SettingsError where
  variableName : String
  value : String
  deriving DecidableEq, Repr

def SettingsError.message (e : SettingsError) : String :=
  "invalid value " ++ Text.quote e.value ++ " for " ++ e.variableName

namespace WriteStrategy

def word : WriteStrategy → String
  | .callback => "callback"
  | .readModifyWrite => "read-modify-write"

/-- White space around the word and the case of its ASCII letters do not count. -/
def ofText (s : String) : Except SettingsError WriteStrategy :=
  let word := Text.asciiLower (Text.trim s)
  if word == "callback" then .ok .callback
  else if ["read-modify-write", "read_modify_write", "rmw"].contains word then .ok .readModifyWrite
  else .error { variableName := "HEARINGS_WRITE_STRATEGY", value := word }

end WriteStrategy

structure Settings where
  strategy : WriteStrategy := .callback
  panelEnabled : Bool := true
  policy : ExceptionPolicy := .keepDormant
  serviceCode : String := "BBA3"
  deploymentId : Option String := none
  deploymentFilter : Bool := false
  deriving DecidableEq, Repr

namespace Settings

def boolOfText? (s : String) : Option Bool :=
  let word := Text.asciiLower (Text.trim s)
  if ["true", "1", "yes", "on"].contains word then some true
  else if ["false", "0", "no", "off"].contains word then some false
  else none

def readBool (env : Environment) (variableName : String) (default : Bool) :
    Except SettingsError Bool :=
  match env variableName with
  | none => .ok default
  | some value =>
    match boolOfText? value with
    | some b => .ok b
    | none => .error { variableName, value }

def readText? (env : Environment) (variableName : String) : Option String :=
  (env variableName).filter fun s => Text.trim s != ""

/-- The first variable that cannot be used is the error; the others are then not looked at. -/
def ofEnvironment (env : Environment) : Except SettingsError Settings := do
  let defaults : Settings := {}
  let strategy ← match env "HEARINGS_WRITE_STRATEGY" with
    | some s => WriteStrategy.ofText s
    | none => .ok defaults.strategy
  let reopens ← readBool env "HEARINGS_EXCEPTION_REOPENS_DORMANT" false
  let panelEnabled ← readBool env "HEARINGS_PANEL_ENABLED" defaults.panelEnabled
  let deploymentFilter ← readBool env "HMC_DEPLOYMENT_FILTER_ENABLED" false
  return {
    strategy
    panelEnabled
    policy := if reopens then .reopenDormant else .keepDormant
    serviceCode := (readText? env "HMC_SERVICE_CODE").getD defaults.serviceCode
    deploymentId := readText? env "HMC_DEPLOYMENT_ID"
    deploymentFilter }

end Settings

end HearingSync
