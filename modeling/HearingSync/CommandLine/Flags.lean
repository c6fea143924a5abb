import HearingSync.CommandLine.Options
import HearingSync.Disposition
import HearingSync.Message
import HearingSync.Rule
import HearingSync.Settings
/-!
The commands: one hands a message to the reconciliation, the other shows what a pair of statuses
calls for.
-/

namespace HearingSync.CommandLine

structure ProcessFlags where
  caseId : String
  hearingId : String
  status : String
  serviceCode : Option String
  deploymentId : Option String
  strategy : Option WriteStrategy
  venues : String
  deriving DecidableEq, Repr

structure ClassifyFlags where
  status : String
  listingStatus : Option String
  deriving DecidableEq, Repr

inductive Command where
  | process (flags : ProcessFlags)
  | classify (flags : ClassifyFlags)
  deriving DecidableEq, Repr

def ProcessFlags.options : List String :=
  ["case-id", "hearing-id", "status", "service-code", "deployment-id", "strategy", "venues"]

def ClassifyFlags.options : List String := ["status", "listing-status"]

def required (m : Matches) (name : String) : Except Stop String :=
  (m.values.get? name).elim (.error .usage) .ok

def ProcessFlags.ofMatches (env : Environment) (m : Matches) : Except Stop ProcessFlags := do
  let caseId ← required m "case-id"
  let hearingId ← required m "hearing-id"
  let strategy ←
    match m.values.get? "strategy" with
    | none => .ok none
    | some s => ((WriteStrategy.ofText s).map some).mapError fun _ => Stop.usage
  let venues ← ((m.values.get? "venues").or (env "VENUE_TABLE_PATH")).elim (.error .usage) .ok
  if venues.isEmpty then throw .usage
  return {
    caseId, hearingId, strategy, venues
    status := (m.values.get? "status").getD "LISTED"
    serviceCode := m.values.get? "service-code"
    deploymentId := m.values.get? "deployment-id" }

def ClassifyFlags.ofMatches (m : Matches) : Except Stop ClassifyFlags := do
  let status ← required m "status"
  return { status, listingStatus := m.values.get? "listing-status" }

def ProcessFlags.parse (env : Environment) (hasSwitches : Bool) (args : List String) :
    Except Stop (ProcessFlags × Switches) := do
  let m ← readOptions { options, hasSwitches, hasVersion := false } args
  return (← ofMatches env m, m.switches)

def ClassifyFlags.parse (hasSwitches : Bool) (args : List String) :
    Except Stop (ClassifyFlags × Switches) := do
  let m ← readOptions { options, hasSwitches, hasVersion := false } args
  return (← ofMatches m, m.switches)

/-- The switch for logs in JSON may be set in the environment too. -/
def environmentLogs (env : Environment) : Except Stop Bool :=
  match env "LOG_JSON" with
  | none => .ok false
  | some "true" => .ok true
  | some "false" => .ok false
  | some _ => .error .usage

def parse (env : Environment) (args : List String) : Except Stop (Command × Bool) := do
  let (m, word) ← readArguments { options := [], hasSwitches := true, hasVersion := true } {} args
  let (command, switches) ←
    match word with
    | some ("process", rest) => do
      let (flags, switches) ← ProcessFlags.parse env true rest
      pure (Command.process flags, switches)
    | some ("classify", rest) => do
      let (flags, switches) ← ClassifyFlags.parse true rest
      pure (Command.classify flags, switches)
    | some ("help", []) => .error .help
    | some ("help", [topic]) =>
      if ["process", "classify", "help"].contains topic then .error .help else .error .usage
    | _ => .error .usage
  let fromEnvironment ← environmentLogs env
  return (command, m.switches.jsonLogs || switches.jsonLogs || fromEnvironment)

def ProcessFlags.message (f : ProcessFlags) (s : Settings) : Except String HearingMessage := do
  let caseId ← (Identifier.ofText? f.caseId).elim
    (.error ("parsing --case-id: " ++ IdentifierKind.case.blankMessage)) .ok
  let hearingId ← (Identifier.ofText? f.hearingId).elim
    (.error ("parsing --hearing-id: " ++ IdentifierKind.hearing.blankMessage)) .ok
  let reportedStatus ← (RequestStatus.ofText f.status).mapError fun e =>
    "parsing --status " ++ Text.quote f.status ++ ": " ++ e.message
  return {
    caseId, hearingId, reportedStatus
    serviceCode := f.serviceCode.getD s.serviceCode
    deploymentId := f.deploymentId }

structure Classification where
  status : RequestStatus
  listing : Option ListingStatus
  deriving DecidableEq, Repr

def Classification.encode (c : Classification) : Json :=
  let rule := c.status.rule
  .object [("status", c.status.encode),
    ("listing_status", .ofOption ListingStatus.encode c.listing),
    ("disposition", (HearingSync.classify c.status c.listing).encode),
    ("summary", .string rule.summary),
    ("hearing_status", .ofOption HearingStatus.encode rule.hearingStatus),
    ("dwp_state", .ofOption DownstreamState.encode rule.downstream)]

def ClassifyFlags.classification (f : ClassifyFlags) : Except String Classification := do
  let status ← (RequestStatus.ofText f.status).mapError fun e =>
    "parsing --status " ++ Text.quote f.status ++ ": " ++ e.message
  let listing ←
    match f.listingStatus with
    | none => .ok none
    | some s =>
      ((ListingStatus.ofText s).map some).mapError fun e =>
        "parsing --listing-status: " ++ e.message
  return { status, listing }

end HearingSync.CommandLine
