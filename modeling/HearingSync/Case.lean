import HearingSync.Vocabulary.Listing
import HearingSync.Vocabulary.Case
import HearingSync.Time.Stored
import HearingSync.Detail
/-!
The case document: its hearings, its work basket and its states; a document with its version; and
an update, which is a new document with the event it is submitted under.
-/

namespace HearingSync

structure Venue where
  venueId : String
  name : String
  region : Option String
  deriving DecidableEq, Repr

structure JudicialUser where
  idamId : String
  personalCode : PersonalCode
  displayName : String
  deriving DecidableEq

structure Panel where
  assignedTo : Option JudicialUser
  members : List JudicialUser
  deriving DecidableEq

structure Hearing where
  hearingId : HearingId
  venueCode : Option VenueCode := none
  venue : Option Venue := none
  start : Option WallClock := none
  finish : Option WallClock := none
  dateText : Option String := none
  timeText : Option String := none
  status : Option HearingStatus := none
  channel : Option Channel := none
  panel : Option Panel := none
  deriving DecidableEq

/-- The fields that a clerk's work list shows. -/
structure WorkBasket where
  date : Option Date := none
  venueCode : Option VenueCode := none
  issued : Option String := none
  deriving DecidableEq

def WorkBasket.cleared : WorkBasket := {}

def WorkBasket.isClear (b : WorkBasket) : Bool :=
  b.date.isNone && b.venueCode.isNone && b.issued.isNone

structure CaseData where
  caseId : CaseId
  state : CaseState
  hearings : List Hearing := []
  workBasket : WorkBasket := {}
  downstream : Option DownstreamState := none
  deriving DecidableEq

namespace Hearing

def find? (hearings : List Hearing) (id : HearingId) : Option Hearing :=
  hearings.find? fun h => h.hearingId = id

def modifyFirst (id : HearingId) (f : Hearing → Hearing) : List Hearing → List Hearing
  | [] => []
  | h :: hs => if h.hearingId = id then f h :: hs else h :: modifyFirst id f hs

def upsert (id : HearingId) (f : Hearing → Hearing) : List Hearing → List Hearing
  | [] => [f { hearingId := id }]
  | h :: hs => if h.hearingId = id then f h :: hs else h :: upsert id f hs

/-- Writes a status, where there is one, on the first hearing of that id. -/
def setStatus (hearings : List Hearing) (id : HearingId) (status : Option HearingStatus) :
    List Hearing :=
  match status with
  | none => hearings
  | some s => modifyFirst id (fun h => { h with status := some s }) hearings

end Hearing

def CaseData.hearing? (c : CaseData) (id : HearingId) : Option Hearing :=
  Hearing.find? c.hearings id

structure CaseSnapshot where
  data : CaseData
  version : Nat
  deriving DecidableEq

structure CaseEvent where
  type : WorkflowEvent
  summary : String
  description : String
  deriving DecidableEq, Repr

structure CaseUpdate where
  data : CaseData
  event : CaseEvent
  deriving DecidableEq

/-- What the store holds after an update: the new document in the state that the event moves it to,
one version on. -/
def CaseSnapshot.commit (current : CaseSnapshot) (update : CaseUpdate) : CaseSnapshot :=
  { data :=
      match update.event.type.postState? with
      | some state => { update.data with state }
      | none => update.data
    version := current.version + 1 }

end HearingSync
