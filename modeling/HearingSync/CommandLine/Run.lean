import HearingSync.CommandLine.Flags
import HearingSync.CommandLine.Log
import HearingSync.Http.Collaborators
import HearingSync.Json.Writer
import HearingSync.Reconcile
/-!
Running a command: what it prints, what it logs as an error, and the code it ends with.
-/

namespace HearingSync.CommandLine

structure Ending where
  code : Nat
  output : String := ""
  errors : List LogRecord := []
  deriving DecidableEq, Repr

def retryableCode : Nat := 75

def versionText : String := "hearings 0.1.0\n"

def Ending.ofStop : Stop → Ending
  | .usage => { code := 2 }
  | .help => { code := 0 }
  | .version => { code := 0, output := versionText }

def Ending.failed (message : String) : Ending := { code := 1, errors := [{ message }] }

def Ending.printed (j : Json) : Ending := { code := 0, output := j.pretty ++ "\n" }

def ClassifyFlags.run (f : ClassifyFlags) : Ending :=
  match f.classification with
  | .error e => .failed e
  | .ok c => .printed c.encode

structure Session where
  settings : Settings
  message : HearingMessage
  clients : Clients
  venues : VenueTable

/-- Settings first, then the flags, the configuration of the clients and the venues; the first of
them that is wrong is the error. -/
def ProcessFlags.prepare (f : ProcessFlags) (env : Environment)
    (venueFile : Except FileFault ByteArray) : Except String Session := do
  let loaded ← (Settings.ofEnvironment env).mapError fun e =>
    "loading reconciler settings: " ++ e.message
  let settings := { loaded with strategy := f.strategy.getD loaded.strategy }
  let message ← f.message settings
  let config ← (ClientConfig.ofEnvironment env).mapError fun e =>
    "loading client configuration: " ++ e.message
  let venues ← (VenueTable.load venueFile).mapError (VenueTable.LoadError.message f.venues)
  let clients ← (config.clients true).mapError fun
    | .config e => (ClientError.config e).message ++ ": " ++ e.message
    | e => e.message
  return { settings, message, clients, venues }

def Session.receive (s : Session) (now : Instant) : Exchange (Except ReconcileError Outcome) := do
  let c := s.clients.collaborators s.venues now
  let (result, _) ← (HearingSync.receive c s.settings s.message).run.run []
  return result

def Ending.ofResult : Except ReconcileError Outcome → Ending
  | .ok outcome => .printed outcome.encode
  | .error e =>
    { code := if e.isRetryable then retryableCode else 1
      errors :=
        [{ message := "hearing event failed"
           fields := [("error", e.message), ("kind", Text.quote e.kind),
             ("retryable", if e.isRetryable then "true" else "false")] }] }

def ProcessFlags.run (f : ProcessFlags) (env : Environment) (venueFile : Except FileFault ByteArray)
    (now : Instant) : Exchange Ending := do
  match f.prepare env venueFile with
  | .error e => return .failed e
  | .ok session => return .ofResult (← session.receive now)

/-- Runs the command where there is no runtime to send requests from: once everything is prepared,
the program stops. -/
def ProcessFlags.runWithoutRuntime (f : ProcessFlags) (env : Environment)
    (venueFile : Except FileFault ByteArray) : Ending :=
  match f.prepare env venueFile with
  | .error e => .failed e
  | .ok _ => { code := 101 }

def errorMark : String := "ERROR "

def Ending.log (e : Ending) (jsonLogs : Bool) : String :=
  String.join (e.errors.map fun r =>
    if jsonLogs then
      let fields := ("message", r.message) :: r.fields
      let members := fields.map fun (name, value) => (name, Json.string value)
      Json.render (.object [("level", .string "ERROR"), ("fields", .object members),
        ("target", .string LogDirective.errorTarget)]) ++ "\n"
    else errorMark ++ r.text ++ "\n")

end HearingSync.CommandLine
