import HearingSync.CommandLine.Run
/-!
The command line. It starts no runtime, so a message is prepared and not handed in.
-/

namespace HearingSync.CommandLine

def faultOf : IO.Error → FileFault
  | .noFileOrDirectory .. => .missing
  | .permissionDenied .. => .forbidden
  | .inappropriateType _ code _ => if code = 21 then .isDirectory else .notDirectory
  | .invalidArgument .. => .nameTooLong
  | e => .other (toString e)

def readVenues (path : String) : IO (Except FileFault ByteArray) := do
  try
    return .ok (← IO.FS.readBinFile path)
  catch e =>
    return .error (faultOf e)

def report (env : Environment) (ending : Ending) (jsonLogs : Bool) : IO UInt32 := do
  IO.print ending.output
  if showsErrors env then IO.eprint (ending.log jsonLogs)
  return ending.code.toUInt32

def variableNames : List String :=
  ["RUST_LOG", "LOG_JSON", "VENUE_TABLE_PATH", "HEARINGS_WRITE_STRATEGY", "HEARINGS_PANEL_ENABLED",
   "HEARINGS_EXCEPTION_REOPENS_DORMANT", "HMC_SERVICE_CODE", "HMC_DEPLOYMENT_ID",
   "HMC_DEPLOYMENT_FILTER_ENABLED", "HMC_API_URL", "JUDICIAL_REF_DATA_URL", "CASE_STORE_URL",
   "SERVICE_AUTH_TOKEN", "USER_AUTH_TOKEN", "HTTP_TIMEOUT_SECS", "HTTP_MAX_RETRIES"]

def readEnvironment : IO Environment := do
  let values ← variableNames.mapM fun name => return (name, ← IO.getEnv name)
  return fun name => (values.lookup name).join

def run (args : List String) : IO UInt32 := do
  let env ← readEnvironment
  match parse env args with
  | .error stop => report env (.ofStop stop) false
  | .ok (.classify flags, jsonLogs) => report env flags.run jsonLogs
  | .ok (.process flags, jsonLogs) => do
    let venueFile ← readVenues flags.venues
    report env (flags.runWithoutRuntime env venueFile) jsonLogs

end HearingSync.CommandLine

def main (args : List String) : IO UInt32 :=
  HearingSync.CommandLine.run args
