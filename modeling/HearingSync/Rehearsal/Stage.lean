import HearingSync.Store.Memory
import HearingSync.VenueTable
/-!
A stage on which messages are rehearsed: a store in memory that can be made to misbehave, a listing
service and reference data with fixed answers, a clock that stands still, and a record of what was
called.
-/

namespace HearingSync.Rehearsal

/-- How the store misbehaves. `race`: another writer changes the case after each fetch. `rerun`: the
first run of a transaction is thrown away, another writer changes the case, and the transaction runs
again. `reject`: what is to be written is refused. `swallow`: a transaction writes nothing and
says so. -/
inductive Fault where
  | none
  | race
  | rerun
  | reject
  | swallow
  deriving DecidableEq, Repr

inductive StoreCall where
  | fetch
  | submit
  | callback
  deriving DecidableEq, Repr

/-- What the runs of a mutation came across. -/
structure Runs where
  seen : List Nat := []
  invalid : Option DecodeError := none

structure Stage where
  store : MemoryStore := {}
  fault : Fault := .none
  hearings : Filing String (Except ClientError HearingDetail) := []
  calls : List StoreCall := []
  asked : List PersonalCode := []
  fetches : Nat := 0
  notes : List Note := []
  runs : Runs := {}

structure Cast where
  venues : VenueTable
  venueFailures : List String
  judges : Filing String (Except ClientError String)
  now : Instant

abbrev Rehearse := StateM Stage

instance : MonadStateOf MemoryStore Rehearse where
  get := return (← getThe Stage).store
  set store := modifyThe Stage fun s => { s with store }
  modifyGet f := modifyGetThe Stage fun s =>
    let (a, store) := f s.store
    (a, { s with store })

instance : MonadStateOf Runs Rehearse where
  get := return (← getThe Stage).runs
  set runs := modifyThe Stage fun s => { s with runs }
  modifyGet f := modifyGetThe Stage fun s =>
    let (a, runs) := f s.runs
    (a, { s with runs })

def memory : CaseStore Rehearse := MemoryStore.caseStore

def call (c : StoreCall) : Rehearse Unit :=
  modifyThe Stage fun s => { s with calls := s.calls ++ [c] }

def touch (id : CaseId) : Rehearse Unit :=
  modifyThe MemoryStore (·.touch id)

def currentFault : Rehearse Fault := return (← getThe Stage).fault

def refusal (id : CaseId) : StoreError := .rejected id "refused by test"

/-- Runs the question on the case as it is, and writes nothing. -/
def tryOut {τ : Type} (id : CaseId)
    (question : CaseSnapshot → StateT τ Rehearse (Option CaseUpdate)) :
    ExceptT StoreError (StateT τ Rehearse) (Option CaseUpdate) := do
  let snapshot ← ExceptT.mk (StateT.lift (memory.fetch id).run)
  question snapshot

def observedStore : CaseStore Rehearse where
  name := memory.name
  fetch id := do
    call .fetch
    let snapshot ← memory.fetch id
    if (← currentFault) = .race then touch id
    return snapshot
  submit base update := do
    call .submit
    if (← currentFault) = .reject then throw (refusal base.data.caseId)
    memory.submit base update
  transact id question := do
    call .callback
    match ← currentFault with
    | .rerun =>
      let _ ← tryOut id question
      touch id
      memory.transact id question
    | .reject =>
      match ← tryOut id question with
      | some _ => throw (refusal id)
      | none => return none
    | .swallow =>
      let _ ← tryOut id question
      return none
    | .none => memory.transact id question
    | .race => memory.transact id question

def note (n : Note) : Rehearse Unit :=
  modifyThe Stage fun s => { s with notes := s.notes ++ [n] }

def askJudge (cast : Cast) (code : PersonalCode) :
    ExceptT ClientError Rehearse (Option JudicialUser) := do
  modifyThe Stage fun s => { s with asked := s.asked ++ [code] }
  match cast.judges.get? code.text with
  | none => return none
  | some (.ok displayName) =>
    return some { idamId := "idam-" ++ code.text, personalCode := code, displayName }
  | some (.error e) => throw e

def findVenue (cast : Cast) (code : VenueCode) : ExceptT ClientError Rehearse (Option Venue) :=
  if cast.venueFailures.contains code.text then throw (.answered "venues" 500 "down")
  else return cast.venues.find? code

def reference (cast : Cast) : ReferenceData Rehearse where
  venue? := findVenue cast
  judge? := askJudge cast
  now := return cast.now

def askHearing (id : HearingId) : ExceptT ClientError Rehearse HearingDetail := do
  modifyThe Stage fun s => { s with fetches := s.fetches + 1 }
  match (← getThe Stage).hearings.get? id.text with
  | some (.ok detail) => return detail
  | some (.error e) => throw e
  | none => throw (.answered id.text 503 "unavailable")

def collaborators (cast : Cast) : Collaborators Rehearse where
  hearing := askHearing
  reference := reference cast
  store := observedStore
  note := note

end HearingSync.Rehearsal
