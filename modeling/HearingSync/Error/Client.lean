import HearingSync.Text.Quoted
/-!
What can go wrong when another service is asked: the settings of the client, the way to the service,
its answer, and the content of the answer.
-/

namespace HearingSync

inductive ConfigError where
  | missingToken
  | invalidUrl (name why : String)
  | invalidHeader (name : String)
  deriving DecidableEq, Repr

def ConfigError.message : ConfigError → String
  | .missingToken => "SERVICE_AUTH_TOKEN environment variable is required"
  | .invalidUrl name why => "invalid URL for " ++ name ++ ": " ++ why
  | .invalidHeader name => "invalid header value for " ++ name

inductive ClientError where
  | transport (endpoint cause : String)
  | answered (endpoint : String) (status : Nat) (body : String)
  | unreadable (endpoint cause : String)
  | invalidDetail (hearing reason : String)
  | noRuntime (endpoint : String)
  | config (e : ConfigError)
  deriving DecidableEq, Repr

def ClientError.message : ClientError → String
  | .transport endpoint cause => "HTTP error calling " ++ endpoint ++ ": " ++ cause
  | .answered endpoint status body =>
    endpoint ++ " returned " ++ toString status ++ ": " ++ body
  | .unreadable endpoint cause =>
    "failed to deserialize response from " ++ endpoint ++ ": " ++ cause
  | .invalidDetail hearing reason => "invalid hearing detail for " ++ hearing ++ ": " ++ reason
  | .noRuntime endpoint => "no async runtime available for " ++ endpoint
  | .config e => "configuration error: " ++ e.message

def ClientError.isInvalidDetail : ClientError → Bool
  | .invalidDetail _ _ => true
  | _ => false

end HearingSync
