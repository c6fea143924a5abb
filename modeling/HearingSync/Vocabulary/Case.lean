import HearingSync.Vocabulary.Word
/-!
What a case document says: the status of a hearing on the case, the state of the case, its state
downstream, and the workflow events that carry updates. States outside the vocabulary are kept word
for word, so that writing a case back loses none.
-/

namespace HearingSync

inductive HearingStatus where
  | awaitingListing
  | listed
  | cancelled
  | exception
  | awaitingActuals
  | adjourned
  | completed
  deriving DecidableEq, Repr

namespace HearingStatus

def word : HearingStatus → String
  | .awaitingListing => "awaitingListing"
  | .listed => "listed"
  | .cancelled => "cancelled"
  | .exception => "exception"
  | .awaitingActuals => "awaitingActuals"
  | .adjourned => "adjourned"
  | .completed => "completed"

instance : Vocabulary HearingStatus :=
  ⟨[.awaitingListing, .listed, .cancelled, .exception, .awaitingActuals, .adjourned, .completed],
   word⟩

def decode : Decoder HearingStatus := Vocabulary.decode

def encode (s : HearingStatus) : Json := .string s.word

end HearingStatus

inductive DownstreamState where
  | hearingDateIssued
  | responseSubmitted
  | directionActionRequired
  | finalDecisionIssued
  | lapsed
  | withdrawn
  | other (text : String)
  deriving DecidableEq, Repr

namespace DownstreamState

def word : DownstreamState → String
  | .hearingDateIssued => "hearingDateIssued"
  | .responseSubmitted => "responseSubmitted"
  | .directionActionRequired => "directionActionRequired"
  | .finalDecisionIssued => "finalDecisionIssued"
  | .lapsed => "lapsed"
  | .withdrawn => "withdrawn"
  | .other text => text

def ofWord (s : String) : DownstreamState :=
  let known : List DownstreamState :=
    [.hearingDateIssued, .responseSubmitted, .directionActionRequired, .finalDecisionIssued,
     .lapsed, .withdrawn]
  (known.find? fun state => state.word == s).getD (.other s)

def isOther : DownstreamState → Bool
  | .other _ => true
  | _ => false

def decode : Decoder DownstreamState := fun j => (Json.decodeString j).map ofWord

def encode (s : DownstreamState) : Json := .string s.word

end DownstreamState

inductive CaseState where
  | readyToList
  | hearing
  | dormantAppealState
  | handlingError
  | withDwp
  | responseReceived
  | other (text : String)
  deriving DecidableEq, Repr

namespace CaseState

def word : CaseState → String
  | .readyToList => "readyToList"
  | .hearing => "hearing"
  | .dormantAppealState => "dormantAppealState"
  | .handlingError => "handlingError"
  | .withDwp => "withDwp"
  | .responseReceived => "responseReceived"
  | .other text => text

def ofWord (s : String) : CaseState :=
  let known : List CaseState :=
    [.readyToList, .hearing, .dormantAppealState, .handlingError, .withDwp, .responseReceived]
  (known.find? fun state => state.word == s).getD (.other s)

def isOther : CaseState → Bool
  | .other _ => true
  | _ => false

def isDormant : CaseState → Bool
  | .dormantAppealState => true
  | _ => false

def decode : Decoder CaseState := fun j => (Json.decodeString j).map ofWord

def encode (s : CaseState) : Json := .string s.word

end CaseState

inductive WorkflowEvent where
  | hearingBooked
  | updateCaseOnly
  | dormant
  | handlingError
  deriving DecidableEq, Repr

namespace WorkflowEvent

def word : WorkflowEvent → String
  | .hearingBooked => "hearingBooked"
  | .updateCaseOnly => "updateCaseOnly"
  | .dormant => "dormant"
  | .handlingError => "handlingError"

instance : Vocabulary WorkflowEvent :=
  ⟨[.hearingBooked, .updateCaseOnly, .dormant, .handlingError], word⟩

def decode : Decoder WorkflowEvent := Vocabulary.decode

def encode (e : WorkflowEvent) : Json := .string e.word

def postState? : WorkflowEvent → Option CaseState
  | .hearingBooked => some .hearing
  | .dormant => some .dormantAppealState
  | .handlingError => some .handlingError
  | .updateCaseOnly => none

end WorkflowEvent

end HearingSync
