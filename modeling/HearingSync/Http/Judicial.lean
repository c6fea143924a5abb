import HearingSync.Case
import HearingSync.Http.Client
/-!
Judicial reference data: a search by personal code. The service may answer with other users too;
only one that has the code counts.
-/

namespace HearingSync

structure JudicialRecord where
  idamId : String
  personalCode : String
  fullName : Option String
  knownAs : Option String
  deriving DecidableEq, Repr

namespace JudicialRecord

def record : Record JudicialRecord :=
  Record.const JudicialRecord.mk |>.app (.required "sidam_id" Json.decodeString)
    |>.app (.required "personal_code" Json.decodeString)
    |>.app (.optional "full_name" Json.decodeString)
    |>.app (.optional "known_as" Json.decodeString)

/-- The user under the code that was asked for. -/
def user (r : JudicialRecord) (requested : PersonalCode) : JudicialUser :=
  { idamId := r.idamId
    personalCode := (Identifier.ofText? r.personalCode).getD requested
    displayName := (r.fullName.or r.knownAs).getD requested.text }

def find? (records : List JudicialRecord) (code : PersonalCode) : Option JudicialUser :=
  (records.find? fun r => Text.trim r.personalCode = code.text).map (·.user code)

end JudicialRecord

/-- Asks reference data for a user; a response with status 404 says that there is none. -/
def Client.judge? (c : Client) (code : PersonalCode) :
    ExceptT ClientError Exchange (Option JudicialUser) := do
  let path := "refdata/judicial/users"
  let endpoint := "POST /" ++ path
  if !c.hasRuntime then throw (.noRuntime endpoint)
  let body : Json := .object [("personal_code", .array [.string code.text])]
  match ← c.send .post path (some body) with
  | .error cause => throw (.transport endpoint cause)
  | .ok r =>
    if r.status = 404 then return none
    let records ← liftExcept
      (Client.readBody endpoint (Json.decodeList JudicialRecord.record.decode) r)
    return JudicialRecord.find? records code

end HearingSync
