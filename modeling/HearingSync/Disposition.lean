import HearingSync.Vocabulary.Listing
/-!
What a pair of statuses calls for. The status of the request decides alone, except where the status
of the listing matters.
-/

namespace HearingSync

inductive NoActionReason where
  | listingNotFixed (listing : Option ListingStatus)
  | statusNotHandled (status : RequestStatus)
  deriving DecidableEq, Repr

inductive Disposition where
  | listedUpdate
  | cancelledInListing
  | terminalCancellation
  | failure
  | notActionable (reason : NoActionReason)
  deriving DecidableEq, Repr

namespace Disposition

def isActionable : Disposition → Bool
  | .notActionable _ => false
  | _ => true

def isListedUpdate : Disposition → Bool
  | .listedUpdate => true
  | _ => false

def name : Disposition → String
  | .listedUpdate => "LISTED_UPDATE"
  | .cancelledInListing => "CANCELLED_IN_LISTING"
  | .terminalCancellation => "TERMINAL_CANCELLATION"
  | .failure => "FAILURE"
  | .notActionable _ => "NOT_ACTIONABLE"

def display : Disposition → String
  | .notActionable (.listingNotFixed (some listing)) =>
    "NOT_ACTIONABLE (listing status " ++ listing.word ++ ")"
  | .notActionable (.listingNotFixed none) => "NOT_ACTIONABLE (no listing status)"
  | .notActionable (.statusNotHandled status) =>
    "NOT_ACTIONABLE (status " ++ status.word ++ " not handled)"
  | d => d.name

end Disposition

def NoActionReason.encode : NoActionReason → Json
  | .listingNotFixed listing =>
    .object [("kind", .string "LISTING_NOT_FIXED"),
      ("listing_status", .ofOption ListingStatus.encode listing)]
  | .statusNotHandled status =>
    .object [("kind", .string "STATUS_NOT_HANDLED"), ("status", status.encode)]

def Disposition.encode (d : Disposition) : Json :=
  match d with
  | .notActionable reason =>
    .object [("disposition", .string d.name), ("reason", reason.encode)]
  | d => .object [("disposition", .string d.name)]

def classify (status : RequestStatus) (listing : Option ListingStatus) : Disposition :=
  if status.isListingRelevant then
    match listing with
    | some .cancelled => .cancelledInListing
    | some .fixed => .listedUpdate
    | listing => .notActionable (.listingNotFixed listing)
  else
    match status with
    | .cancelled => .terminalCancellation
    | .exception => .failure
    | status => .notActionable (.statusNotHandled status)

end HearingSync
