import HearingSync.Gate
import HearingSync.Rule
/-!
One-line renderings of rules and of the parts that settings configure, for people who look into a
running service.
-/

namespace HearingSync.Inspect

def bool (b : Bool) : String := if b then "true" else "false"

def option (o : Option String) : String :=
  match o with
  | none => "None"
  | some s => "Some(" ++ s ++ ")"

/-- A name with its fields; `isPartial` says that there is more than is shown. -/
def fields (name : String) (shown : List (String × String)) (isPartial : Bool) : String :=
  let items := shown.map fun (field, value) => field ++ ": " ++ value
  name ++ " \x7b " ++ ", ".intercalate (if isPartial then items ++ [".."] else items) ++ " \x7d"

def capitalName (word : String) : String :=
  match word.toList with
  | [] => ""
  | c :: cs => String.ofList (c.toUpper :: cs)

def downstream : DownstreamState → String
  | .other text => "Other(" ++ Text.quote text ++ ")"
  | known => capitalName known.word

def rule (r : StatusRule) : String :=
  fields "StatusRule"
    [("has_event_mapper", bool r.choice.isSome),
     ("dwp_state", option (r.downstream.map downstream)),
     ("hearing_status", option (r.hearingStatus.map fun s => capitalName s.word)),
     ("summary", Text.quote r.summary)] false

def updater (s : Settings) : String :=
  fields "HearingUpdater" [("panel_enabled", bool s.panelEnabled)] true

def gate (g : Gate) : String :=
  fields "EventGate"
    [("service_code", Text.quote g.serviceCode),
     ("deployment_id", option (g.deploymentId.map Text.quote)),
     ("deployment_filter_enabled", bool g.deploymentFilter)] false

def strategy : WriteStrategy → String
  | .callback => "Callback"
  | .readModifyWrite => "ReadModifyWrite"

def policy : ExceptionPolicy → String
  | .keepDormant => "KeepDormant"
  | .reopenDormant => "ReopenDormant"

def reconciler (s : Settings) : String :=
  fields "Reconciler"
    [("updater", updater s), ("write_strategy", strategy s.strategy),
     ("exception_policy", policy s.policy)] true

def listener (s : Settings) : String :=
  fields "HearingEventListener" [("gate", gate s.gate), ("reconciler", reconciler s)] false

end HearingSync.Inspect
