import HearingSync.Vocabulary.Word
/-!
What the listing service (HMC) says about a hearing: the status of the request, the status of its
listing, the reasons of a cancellation and the channel of an attendee. Words that the service may
add later are read as `unknown`.
-/

namespace HearingSync

inductive RequestStatus where
  | hearingRequested
  | awaitingListing
  | listed
  | updateRequested
  | updateSubmitted
  | exception
  | cancellationRequested
  | cancellationSubmitted
  | cancelled
  | awaitingActuals
  | adjourned
  | completed
  | closed
  | unknown
  deriving DecidableEq, Repr

namespace RequestStatus

def word : RequestStatus → String
  | .hearingRequested => "HEARING_REQUESTED"
  | .awaitingListing => "AWAITING_LISTING"
  | .listed => "LISTED"
  | .updateRequested => "UPDATE_REQUESTED"
  | .updateSubmitted => "UPDATE_SUBMITTED"
  | .exception => "EXCEPTION"
  | .cancellationRequested => "CANCELLATION_REQUESTED"
  | .cancellationSubmitted => "CANCELLATION_SUBMITTED"
  | .cancelled => "CANCELLED"
  | .awaitingActuals => "AWAITING_ACTUALS"
  | .adjourned => "ADJOURNED"
  | .completed => "COMPLETED"
  | .closed => "CLOSED"
  | .unknown => "UNKNOWN"

def known : List RequestStatus :=
  [.hearingRequested, .awaitingListing, .listed, .updateRequested, .updateSubmitted, .exception,
   .cancellationRequested, .cancellationSubmitted, .cancelled, .awaitingActuals, .adjourned,
   .completed, .closed]

def all : List RequestStatus := known ++ [.unknown]

instance : Vocabulary RequestStatus := ⟨all, word⟩

def decode : Decoder RequestStatus := Vocabulary.decodeOr .unknown

def encode (s : RequestStatus) : Json := .string s.word

def isListingRelevant : RequestStatus → Bool
  | .listed | .awaitingListing | .updateSubmitted => true
  | _ => false

/-- Reads a status that a person typed: white space around it and the case of ASCII letters do not
count, and `unknown` is no answer. -/
def ofText (s : String) : Except UnknownWord RequestStatus :=
  let wanted := Text.asciiUpper (Text.trim s)
  match known.find? fun status => status.word == wanted with
  | some status => .ok status
  | none => .error { vocabulary := "hmc status", text := s }

end RequestStatus

inductive ListingStatus where
  | fixed
  | draft
  | provisional
  | cancelled
  | unknown
  deriving DecidableEq, Repr

namespace ListingStatus

def word : ListingStatus → String
  | .fixed => "FIXED"
  | .draft => "DRAFT"
  | .provisional => "PROVISIONAL"
  | .cancelled => "CNCL"
  | .unknown => "UNKNOWN"

instance : Vocabulary ListingStatus := ⟨[.fixed, .draft, .provisional, .cancelled, .unknown], word⟩

def decode : Decoder ListingStatus := Vocabulary.decodeOr .unknown

def encode (s : ListingStatus) : Json := .string s.word

/-- Reads a status that a person typed; a cancelled listing has a long word besides its code. -/
def ofText (s : String) : Except UnknownWord ListingStatus :=
  match Text.asciiUpper (Text.trim s) with
  | "FIXED" => .ok .fixed
  | "DRAFT" => .ok .draft
  | "PROVISIONAL" => .ok .provisional
  | "CNCL" => .ok .cancelled
  | "CANCELLED" => .ok .cancelled
  | _ => .error { vocabulary := "listing status", text := s }

end ListingStatus

inductive CancellationReason where
  | withdrawn
  | struckOut
  | lapsed
  | settled
  | other
  | partyUnableToAttend
  | exclusion
  | incompleteTribunal
  | listedInError
  | partyDidNotAttend
  | feeNotPaid
  | judicialDirection
  | unknown
  deriving DecidableEq, Repr

namespace CancellationReason

def word : CancellationReason → String
  | .withdrawn => "withdraw"
  | .struckOut => "struck"
  | .lapsed => "lapsed"
  | .settled => "settled"
  | .other => "other"
  | .partyUnableToAttend => "unable"
  | .exclusion => "exc"
  | .incompleteTribunal => "incompl"
  | .listedInError => "listerr"
  | .partyDidNotAttend => "notatt"
  | .feeNotPaid => "feepaid"
  | .judicialDirection => "judirect"
  | .unknown => "Unknown"

instance : Vocabulary CancellationReason :=
  ⟨[.withdrawn, .struckOut, .lapsed, .settled, .other, .partyUnableToAttend, .exclusion,
    .incompleteTribunal, .listedInError, .partyDidNotAttend, .feeNotPaid, .judicialDirection,
    .unknown], word⟩

def decode : Decoder CancellationReason := Vocabulary.decodeOr .unknown

def encode (r : CancellationReason) : Json := .string r.word

def leadsToDormant : CancellationReason → Bool
  | .withdrawn | .struckOut | .lapsed => true
  | _ => false

end CancellationReason

inductive Channel where
  | faceToFace
  | telephone
  | video
  | paper
  | notAttending
  deriving DecidableEq, Repr

namespace Channel

def word : Channel → String
  | .faceToFace => "FACE_TO_FACE"
  | .telephone => "TELEPHONE"
  | .video => "VIDEO"
  | .paper => "PAPER"
  | .notAttending => "NOT_ATTENDING"

instance : Vocabulary Channel := ⟨[.faceToFace, .telephone, .video, .paper, .notAttending], word⟩

def decode : Decoder Channel := Vocabulary.decode

def encode (c : Channel) : Json := .string c.word

def ofSubChannel? (code : String) : Option Channel :=
  let code := Text.trim code
  if code == "INTER" then some .faceToFace
  else if ["TEL", "TELBTM", "TELCVP", "TELOTHER", "TELSKYP"].contains code then some .telephone
  else if ["VID", "VIDCVP", "VIDOTHER", "VIDPVL", "VIDSKYPE", "VIDTEAMS", "VIDVHS"].contains code
    then some .video
  else if code == "ONPPRS" then some .paper
  else if code == "NA" then some .notAttending
  else none

end Channel

end HearingSync
