import HearingSync.Error.Client
import HearingSync.Settings
import HearingSync.Url.Parse
/-!
Settings of the clients: where the services are, the tokens that go with every request, and how
often a request that got no response is sent again.
-/

namespace HearingSync

structure ClientConfig where
  hearingsUrl : Url
  judicialUrl : Url
  caseStoreUrl : Url
  serviceToken : String
  userToken : Option String
  timeoutSeconds : Nat
  maxRetries : Nat
  deriving DecidableEq, Repr

namespace ClientConfig

def parseUrl (name : String) (s : String) : Except ConfigError Url :=
  match Url.parse s with
  | .ok url => .ok url
  | .error e => .error (.invalidUrl name e.message)

def readUrl (env : Environment) (name default : String) : Except ConfigError Url :=
  parseUrl name ((env name).getD default)

def numberOfText? (limit : Nat) (s : String) : Option Nat :=
  let cs := s.toList
  let digits := if cs.head? = some '+' then cs.tail else cs
  match Json.digitsValue? (String.ofList digits) with
  | some n => if n < limit then some n else none
  | none => none

/-- A value that is no number below the limit is passed over. -/
def readNumber (env : Environment) (name : String) (limit default : Nat) : Nat :=
  ((env name).bind fun s => numberOfText? limit (Text.trim s)).getD default

def ofEnvironment (env : Environment) : Except ConfigError ClientConfig := do
  let serviceToken ← (env "SERVICE_AUTH_TOKEN").elim (.error .missingToken) .ok
  let hearingsUrl ← readUrl env "HMC_API_URL" "http://localhost:8084"
  let judicialUrl ← readUrl env "JUDICIAL_REF_DATA_URL" "http://localhost:8093"
  let caseStoreUrl ← readUrl env "CASE_STORE_URL" "http://localhost:4452"
  return {
    hearingsUrl, judicialUrl, caseStoreUrl, serviceToken
    userToken := Settings.readText? env "USER_AUTH_TOKEN"
    timeoutSeconds := readNumber env "HTTP_TIMEOUT_SECS" 18446744073709551616 30
    maxRetries := readNumber env "HTTP_MAX_RETRIES" 4294967296 3 }

def localServer (base token : String) : Except ConfigError ClientConfig := do
  let url ← parseUrl base base
  return {
    hearingsUrl := url, judicialUrl := url, caseStoreUrl := url, serviceToken := token
    userToken := none, timeoutSeconds := 5, maxRetries := 0 }

/-- The tokens, which no log shows. -/
def secrets (c : ClientConfig) : List String := c.serviceToken :: c.userToken.toList

end ClientConfig

end HearingSync
