import HearingSync.Collaborators
import HearingSync.Filing
/-!
A case store in memory. A submission is accepted at the version it started from and at no other; a
transaction reads and writes in one step.
-/

namespace HearingSync

structure MemoryStore where
  cases : Filing CaseId CaseSnapshot := []
  events : List (CaseId × CaseEvent) := []
  writes : Nat := 0
  unavailable : Bool := false
  deriving DecidableEq

namespace MemoryStore

def name : String := "in-memory"

def get? (s : MemoryStore) (id : CaseId) : Option CaseSnapshot := s.cases.get? id

def insert (s : MemoryStore) (data : CaseData) : MemoryStore :=
  { s with cases := s.cases.put data.caseId { data, version := 1 } }

/-- Another writer's change: the version moves on. -/
def touch (s : MemoryStore) (id : CaseId) : MemoryStore :=
  match s.get? id with
  | some snapshot =>
    { s with cases := s.cases.put id { snapshot with version := snapshot.version + 1 } }
  | none => s

def setUnavailable (s : MemoryStore) (unavailable : Bool) : MemoryStore :=
  { s with unavailable }

def fetch (s : MemoryStore) (id : CaseId) : Except StoreError CaseSnapshot :=
  if s.unavailable then .error (.unavailable id "in-memory store marked unavailable")
  else
    match s.get? id with
    | some snapshot => .ok snapshot
    | none => .error (.notFound id)

def apply (s : MemoryStore) (id : CaseId) (current : CaseSnapshot) (update : CaseUpdate) :
    MemoryStore :=
  { s with
    cases := s.cases.put id (current.commit update)
    events := s.events ++ [(id, update.event)]
    writes := s.writes + 1 }

/-- Replaces the document of the snapshot's case, if the snapshot is still of the current
version. -/
def submit (s : MemoryStore) (base : CaseSnapshot) (update : CaseUpdate) :
    Except StoreError CaseSnapshot × MemoryStore :=
  let id := base.data.caseId
  match s.fetch id with
  | .error e => (.error e, s)
  | .ok current =>
    if current.version = base.version then (.ok (current.commit update), s.apply id current update)
    else (.error (.conflict id base.version), s)

variable {m : Type → Type} [Monad m]

def caseStore [MonadStateOf MemoryStore m] : CaseStore m where
  name := name
  fetch id := ExceptT.mk do return (← getThe MemoryStore).fetch id
  submit base update := ExceptT.mk (modifyGetThe MemoryStore fun s => s.submit base update)
  transact id question := ExceptT.mk do
    match (← StateT.lift (getThe MemoryStore)).fetch id with
    | .error e => return .error e
    | .ok current =>
      match ← question current with
      | none => return .ok none
      | some update =>
        StateT.lift (modifyThe MemoryStore fun s => s.apply id current update)
        return .ok (some (current.commit update))

end MemoryStore

end HearingSync
