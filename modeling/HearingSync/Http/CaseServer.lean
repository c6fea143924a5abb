import HearingSync.CaseJson
import HearingSync.Collaborators
import HearingSync.Http.Client
/-!
The case store over HTTP. A submission names the version it started from; a transaction names the
token that came with the case, and starts again with a fresh one when the token is stale. Reads are
sent again when no response comes, events are sent once.
-/

namespace HearingSync

structure IssuedToken where
  token : String
  snapshot : CaseSnapshot
  deriving DecidableEq

def IssuedToken.record : Record IssuedToken :=
  Record.const IssuedToken.mk |>.app (.required "token" Json.decodeString)
    |>.app (.required "case" CaseSnapshot.decode)

inductive Submission where
  | version (expected : Nat)
  | token (issued : String)
  deriving DecidableEq, Repr

def Submission.member : Submission → String × Json
  | .version expected => ("expectedVersion", .ofNat expected)
  | .token issued => ("eventToken", .string issued)

namespace CaseServer

def name : String := "ccd"

def failure (id : CaseId) (expected : Nat) (r : Response) : StoreError :=
  let reason := "HTTP " ++ toString r.status ++ ": " ++ r.body
  if r.status = 404 then .notFound id
  else if r.status = 409 then .conflict id expected
  else if r.isServerError then .unavailable id reason
  else .rejected id reason

def read {α : Type} (id : CaseId) (endpoint : String) (expected : Nat) (decode : Decoder α)
    (answer : Except String Response) : Except StoreError α :=
  match answer with
  | .error cause => .error (.unavailable id (endpoint ++ ": " ++ cause))
  | .ok r =>
    if r.isSuccess then
      match Json.decodeText decode r.body with
      | .ok a => .ok a
      | .error _ => .error (.unavailable id (endpoint ++ ": " ++ Client.unreadableBody))
    else .error (failure id expected r)

def get {α : Type} (c : Client) (id : CaseId) (path : String) (decode : Decoder α) :
    Exchange (Except StoreError α) := do
  return read id ("GET /" ++ path) 0 decode (← c.send .get path none)

def noRuntime (id : CaseId) : StoreError :=
  .unavailable id (ClientError.noRuntime "case store").message

def fetch (c : Client) (id : CaseId) : Exchange (Except StoreError CaseSnapshot) :=
  if c.hasRuntime then get c id ("cases/" ++ id.text) CaseSnapshot.decode
  else .done (.error (noRuntime id))

def issueToken (c : Client) (id : CaseId) : Exchange (Except StoreError IssuedToken) :=
  get c id ("cases/" ++ id.text ++ "/event-token") IssuedToken.record.decode

def postEvent (c : Client) (id : CaseId) (base : Nat) (submission : Submission)
    (update : CaseUpdate) : Exchange (Except StoreError CaseSnapshot) := do
  let path := "cases/" ++ id.text ++ "/events"
  let body : Json :=
    .object [("event", update.event.encode), ("data", update.data.encode), submission.member]
  return read id ("POST /" ++ path) base CaseSnapshot.decode (← c.sendOnce .post path (some body))

/-- Submits to the case that the snapshot's document names. -/
def submit (c : Client) (base : CaseSnapshot) (update : CaseUpdate) :
    Exchange (Except StoreError CaseSnapshot) :=
  let id := base.data.caseId
  if c.hasRuntime then postEvent c id base.version (.version base.version) update
  else .done (.error (noRuntime id))

variable {m : Type → Type} [Monad m] [MonadLiftT Exchange m]

/-- How one token was used up: with an answer, or in vain because the case had moved on. -/
inductive Attempt where
  | ended (answer : Except StoreError (Option CaseSnapshot))
  | stale (e : StoreError)

def Attempt.ofPost : Except StoreError CaseSnapshot → Attempt
  | .ok committed => .ended (.ok (some committed))
  | .error (.conflict id expected) => .stale (.conflict id expected)
  | .error e => .ended (.error e)

def attempt (c : Client) (id : CaseId) (question : CaseSnapshot → m (Option CaseUpdate)) :
    m Attempt := do
  match ← (issueToken c id : Exchange _) with
  | .error e => return .ended (.error e)
  | .ok issued =>
    match ← question issued.snapshot with
    | none => return .ended (.ok none)
    | some update =>
      let posted ←
        (postEvent c id issued.snapshot.version (.token issued.token) update : Exchange _)
      return .ofPost posted

/-- Starts again with a fresh token, so many times at most, when the token is stale. -/
def attempts (c : Client) (id : CaseId) (question : CaseSnapshot → m (Option CaseUpdate)) :
    Nat → m (Except StoreError (Option CaseSnapshot))
  | 0 => do
    match ← attempt c id question with
    | .ended answer => return answer
    | .stale e => return .error e
  | again + 1 => do
    match ← attempt c id question with
    | .ended answer => return answer
    | .stale _ => attempts c id question again

def transact (c : Client) (id : CaseId) (question : CaseSnapshot → m (Option CaseUpdate)) :
    m (Except StoreError (Option CaseSnapshot)) :=
  if c.hasRuntime then attempts c id question c.maxRetries
  else return .error (noRuntime id)

def caseStore (c : Client) : CaseStore m where
  name := name
  fetch id := ExceptT.mk (liftM (fetch c id))
  submit base update := ExceptT.mk (liftM (submit c base update))
  transact id question := ExceptT.mk (transact c id question)

end CaseServer

end HearingSync
