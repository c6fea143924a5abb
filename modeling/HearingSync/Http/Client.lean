import HearingSync.Http.Config
import HearingSync.Http.Exchange
import HearingSync.Json.Decode
import HearingSync.Json.Writer
import HearingSync.Text.Base64
/-!
One service over HTTP: requests with the headers of the configuration, sent again when no response
comes, and responses read as documents. Credentials in the address go into a header.
-/

namespace HearingSync

/-- A service that can be sent requests. Without a runtime no request leaves. -/
structure Client where
  base : Url
  headers : List (String × String)
  maxRetries : Nat
  hasRuntime : Bool

structure Clients where
  hearings : Client
  judicial : Client
  caseStore : Client

namespace Client

def isHeaderValue (s : String) : Bool :=
  s.toList.all fun c => (0x20 ≤ c.toNat && c.toNat ≠ 0x7F) || c == '\t'

def header (name label value : String) : Except ConfigError (String × String) :=
  if isHeaderValue value then .ok (name, value) else .error (.invalidHeader label)

def serviceHeader : String := "ServiceAuthorization"

def headersOf (config : ClientConfig) : Except ConfigError (List (String × String)) := do
  let service ← header "serviceauthorization" serviceHeader config.serviceToken
  let user ← config.userToken.toList.mapM fun token =>
    header "authorization" "Authorization" ("Bearer " ++ token)
  return service :: user ++ [("content-type", "application/json")]

/-- What the receiver takes a header's value for: blanks at either end do not count. -/
def receivedValue (value : String) : String :=
  let isOuter (c : Char) : Bool := c == ' ' || c == '\t'
  String.ofList ((value.toList.dropWhile isOuter).reverse.dropWhile isOuter).reverse

/-- User name and password of a URL in plain text. A password that is no text counts as none, and
a user name that is no text leaves no credentials. -/
def loginOf? (url : Url) : Option (String × Option String) := do
  let a ← url.authority
  let user ← Url.unescaped? a.credentials.user
  let password := a.credentials.password.bind Url.unescaped?
  if user.isEmpty && password.isNone then none else some (user, password)

def basicValue (user : String) (password : Option String) : String :=
  let bytes := (user ++ ":" ++ password.getD "").toUTF8.toList
  "Basic " ++ String.ofList (Text.Base64.encode bytes)

inductive RequestError where
  | invalidUrl
  | unsendable (url : Url)
  deriving DecidableEq, Repr

def RequestError.message : RequestError → String
  | .invalidUrl => "builder error"
  | .unsendable url => "builder error for url (" ++ url.text ++ ")"

def longestUrl : Nat := 65534

def isSendable (url : Url) : Bool :=
  let hasHost :=
    match url.authority with
    | none => false
    | some a =>
      a.host.text != "" && !a.host.text.toList.any ['"', '\x60', '\x7b', '\x7d'].contains
  ["http", "https"].contains url.scheme && hasHost && url.text.utf8ByteSize ≤ longestUrl

/-- Where a request goes, and its headers: credentials of the URL take the place of a token. -/
def addressed (url : Url) (headers : List (String × String)) : Url × List (String × String) :=
  match loginOf? url with
  | none => (url, headers)
  | some (user, password) =>
    let others := headers.filter fun h => h.1 != "authorization"
    (url.withoutCredentials, others ++ [("authorization", basicValue user password)])

def request (c : Client) (method : Method) (path : String) (body : Option Json) :
    Except RequestError Request := do
  let named ← (Url.parse (Url.join c.base path)).mapError fun _ => RequestError.invalidUrl
  let (url, headers) := addressed named c.headers
  if isSendable url then return { method, url, headers, body } else throw (.unsendable url)

def sendOnce (c : Client) (method : Method) (path : String) (body : Option Json) :
    Exchange (Except String Response) :=
  match c.request method path body with
  | .error e => .done (.error e.message)
  | .ok request =>
    .send request fun
      | .response r => .done (.ok r)
      | .dropped => .done (.error ("error sending request for url (" ++ request.url.text ++ ")"))

def retry (attempt : Exchange (Except String Response)) : Nat → Exchange (Except String Response)
  | 0 => attempt
  | n + 1 => do
    match ← attempt with
    | .ok r => return .ok r
    | .error _ => retry attempt n

def send (c : Client) (method : Method) (path : String) (body : Option Json) :
    Exchange (Except String Response) :=
  retry (c.sendOnce method path body) c.maxRetries

def unreadableBody : String := "error decoding response body"

def readBody {α : Type} (endpoint : String) (decode : Decoder α) (r : Response) :
    Except ClientError α :=
  if r.isSuccess then
    match Json.decodeText decode r.body with
    | .ok a => .ok a
    | .error _ => .error (.unreadable endpoint unreadableBody)
  else .error (.answered endpoint r.status r.body)

end Client

def ClientConfig.clients (config : ClientConfig) (hasRuntime : Bool) :
    Except ClientError Clients := do
  let headers ← (Client.headersOf config).mapError .config
  let client (base : Url) : Client :=
    { base, headers, maxRetries := config.maxRetries, hasRuntime }
  return {
    hearings := client config.hearingsUrl
    judicial := client config.judicialUrl
    caseStore := client config.caseStoreUrl }

end HearingSync
