import HearingSync.Vocabulary.Listing
import HearingSync.Vocabulary.Case
/-!
The rule of each request status: how the workflow event is chosen, what is written on the case, and
the texts that go with the event.
-/

namespace HearingSync

/-- Whether an exception takes a dormant case out of dormancy. -/
inductive ExceptionPolicy where
  | keepDormant
  | reopenDormant
  deriving DecidableEq, Repr

structure EventContext where
  listing : Option ListingStatus
  reasons : List CancellationReason
  state : CaseState
  policy : ExceptionPolicy

inductive EventChoice where
  | updateOnly
  | listed
  | cancelled
  | exception
  deriving DecidableEq, Repr

def EventChoice.event (choice : EventChoice) (ctx : EventContext) : WorkflowEvent :=
  match choice with
  | .updateOnly => .updateCaseOnly
  | .listed => if ctx.listing = some .cancelled then .updateCaseOnly else .hearingBooked
  | .cancelled =>
    if ctx.reasons.any CancellationReason.leadsToDormant then .dormant else .updateCaseOnly
  | .exception =>
    if ctx.policy = .keepDormant ∧ ctx.state.isDormant then .updateCaseOnly else .handlingError

structure StatusRule where
  choice : Option EventChoice
  downstream : Option DownstreamState
  hearingStatus : Option HearingStatus
  summary : String
  template : String
  deriving DecidableEq, Repr

namespace StatusRule

/-- Stands in a template for the id of the hearing. -/
def placeholder : String := "\x7bhearing_id\x7d"

def inert (hearingStatus : Option HearingStatus) : StatusRule :=
  { choice := none, downstream := none, hearingStatus, summary := "", template := "" }

/-- The text with each occurrence of the pattern replaced, from left to right. `skip` characters
belong to an occurrence that has been replaced. -/
def replaceAll (pattern replacement : List Char) : Nat → List Char → List Char
  | _, [] => []
  | skip + 1, _ :: cs => replaceAll pattern replacement skip cs
  | 0, c :: cs =>
    if pattern.isPrefixOf (c :: cs) then
      replacement ++ replaceAll pattern replacement (pattern.length - 1) cs
    else c :: replaceAll pattern replacement 0 cs

def description (rule : StatusRule) (hearingId : String) : String :=
  String.ofList (replaceAll placeholder.toList hearingId.toList 0 rule.template.toList)

def event? (rule : StatusRule) (ctx : EventContext) : Option WorkflowEvent :=
  rule.choice.map (·.event ctx)

end StatusRule

def RequestStatus.rule : RequestStatus → StatusRule
  | .awaitingListing =>
    { choice := some .updateOnly
      downstream := none
      hearingStatus := some .awaitingListing
      summary := "Hearing Awaiting Listing"
      template := "Hearing awaiting listing for hearing id " ++ StatusRule.placeholder }
  | .listed =>
    { choice := some .listed
      downstream := some .hearingDateIssued
      hearingStatus := some .listed
      summary := "Hearing Listed"
      template := "Hearing listed for hearing id " ++ StatusRule.placeholder }
  | .updateSubmitted =>
    { choice := some .updateOnly
      downstream := none
      hearingStatus := none
      summary := "Hearing Updated"
      template := "Hearing update submitted for hearing id " ++ StatusRule.placeholder }
  | .cancelled =>
    { choice := some .cancelled
      downstream := none
      hearingStatus := some .cancelled
      summary := "Hearing Cancelled"
      template := "Hearing cancelled for hearing id " ++ StatusRule.placeholder }
  | .exception =>
    { choice := some .exception
      downstream := none
      hearingStatus := some .exception
      summary := "Hearing Exception"
      template := "HMC reported an exception for hearing id " ++ StatusRule.placeholder }
  | .awaitingActuals => .inert (some .awaitingActuals)
  | .adjourned => .inert (some .adjourned)
  | .completed => .inert (some .completed)
  | .hearingRequested | .updateRequested | .cancellationRequested | .cancellationSubmitted
  | .closed | .unknown => .inert none

end HearingSync
