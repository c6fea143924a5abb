import HearingSync.CaseJson
import HearingSync.Http.Hearings
import HearingSync.Message
import HearingSync.Proofs.Json.Padding
/-!
Messages, details and cases whose ids have white space around them. Main statements: whatever is
read of such a document is read of it without that white space, and a document that cannot be read
is refused for the same reason; so it is with the listing service's answers and the details made of
them.
-/

namespace HearingSync

open Json (Overlooks unpadEach)

namespace HearingMessage

def unpad : Json → Json := record.unpad [("caseId", Json.unpad), ("hearingId", Json.unpad)]

theorem overlooks : Overlooks Eq decode unpad :=
  Record.Overlooks.decoder (by decide) <|
    .app_eq (.optional .nothing) <|
    .app_eq (.required .nothing) <|
    .app_eq (.required .identifier) <|
    .app_eq (.required .identifier) <|
    .app_eq (.required .nothing) <|
    .const rfl

end HearingMessage

namespace Session

def unpad : Json → Json := record.unpad
  [("venue", Json.unpad), ("judge", Json.unpad), ("panel_members", unpadEach Json.unpad)]

theorem overlooks : Overlooks Eq decode unpad :=
  Record.Overlooks.decoder (by decide) <|
    .app_eq (.optional .nothing) <|
    .app_eq (.defaulted (.list_eq .identifier) rfl) <|
    .app_eq (.optional .identifier) <|
    .app_eq (.optional .identifier) <|
    .app_eq (.optional .nothing) <|
    .app_eq (.optional .nothing) <|
    .const rfl

end Session

namespace HearingDetail

def unpad : Json → Json := record.unpad
  [("hearing_id", Json.unpad), ("sessions", unpadEach Session.unpad)]

theorem overlooks : Overlooks Eq decode unpad :=
  Record.Overlooks.decoder (by decide) <|
    .app_eq (.defaulted Session.overlooks.list_eq rfl) <|
    .app_eq (.defaulted .nothing rfl) <|
    .app_eq (.nullable .nothing) <|
    .app_eq (.required .nothing) <|
    .app_eq (.required .identifier) <|
    .const rfl

end HearingDetail

namespace JudicialUser

def unpad : Json → Json := record.unpad [("personalCode", Json.unpad)]

theorem overlooks : Overlooks Eq decode unpad :=
  Record.Overlooks.decoder (by decide) <|
    .app_eq (.required .nothing) <|
    .app_eq (.required .identifier) <|
    .app_eq (.required .nothing) <|
    .const rfl

end JudicialUser

namespace Panel

def unpad : Json → Json := record.unpad
  [("assignedTo", JudicialUser.unpad), ("panelMembers", unpadEach JudicialUser.unpad)]

theorem overlooks : Overlooks Eq decode unpad :=
  Record.Overlooks.decoder (by decide) <|
    .app_eq (.defaulted JudicialUser.overlooks.list_eq rfl) <|
    .app_eq (.optional JudicialUser.overlooks) <|
    .const rfl

end Panel

namespace Hearing

def unpad : Json → Json := record.unpad
  [("hearingId", Json.unpad), ("epimsId", Json.unpad), ("panel", Panel.unpad)]

theorem overlooks : Overlooks Eq decode unpad :=
  Record.Overlooks.decoder (by decide) <|
    .app_eq (.optional Panel.overlooks) <|
    .app_eq (.optional .nothing) <|
    .app_eq (.optional .nothing) <|
    .app_eq (.optional .nothing) <|
    .app_eq (.optional .nothing) <|
    .app_eq (.optional .nothing) <|
    .app_eq (.optional .nothing) <|
    .app_eq (.optional .nothing) <|
    .app_eq (.optional .identifier) <|
    .app_eq (.required .identifier) <|
    .const rfl

end Hearing

namespace WorkBasket

def unpad : Json → Json := record.unpad [("hearingEpimsId", Json.unpad)]

theorem overlooks : Overlooks Eq decode unpad :=
  Record.Overlooks.decoder (by decide) <|
    .app_eq (.optional .nothing) <|
    .app_eq (.optional .identifier) <|
    .app_eq (.optional .nothing) <|
    .const rfl

end WorkBasket

namespace CaseData

def unpad : Json → Json := record.unpad
  [("caseId", Json.unpad), ("hearings", unpadEach Hearing.unpad), ("workBasket", WorkBasket.unpad)]

theorem overlooks : Overlooks Eq decode unpad :=
  Record.Overlooks.decoder (by decide) <|
    .app_eq (.optional .nothing) <|
    .app_eq (.defaulted WorkBasket.overlooks rfl) <|
    .app_eq (.defaulted Hearing.overlooks.list_eq rfl) <|
    .app_eq (.required .nothing) <|
    .app_eq (.required .identifier) <|
    .const rfl

end CaseData

namespace CaseSnapshot

def unpad : Json → Json := record.unpad [("data", CaseData.unpad)]

theorem overlooks : Overlooks Eq decode unpad :=
  Record.Overlooks.decoder (by decide) <|
    .app_eq (.required .nothing) <|
    .app_eq (.required CaseData.overlooks) <|
    .const rfl

end CaseSnapshot

section Answers

variable {k : IdentifierKind} {x y : Option String} {xs ys : List String}

theorem bind_ofText?_congr (h : Option.Rel (fun s t => Text.trim s = Text.trim t) x y) :
    (x.bind Identifier.ofText? : Option (Identifier k)) = y.bind Identifier.ofText? := by
  cases h with
  | none => rfl
  | some hst => exact Identifier.ofText?_congr hst

theorem filterMap_ofText?_congr (h : List.Forall₂ (fun s t => Text.trim s = Text.trim t) xs ys) :
    (xs.filterMap Identifier.ofText? : List (Identifier k)) = ys.filterMap Identifier.ofText? := by
  induction h with
  | nil => rfl
  | cons hst _ ih =>
    rw [List.filterMap_cons, List.filterMap_cons, Identifier.ofText?_congr hst, ih]

end Answers

namespace ScheduledDay

def unpad : Json → Json := record.unpad
  [("hearingVenueEpimsId", Json.unpad), ("hearingJudgeId", Json.unpad),
    ("panelMemberIds", unpadEach Json.unpad)]

theorem overlooks : Overlooks (fun d e => d.session = e.session) record.decode unpad :=
  Record.Overlooks.decoder (by decide) <|
    .app (.defaulted .nothing rfl) <|
    .app (.defaulted Overlooks.string.list .nil) <|
    .app (.defaulted Overlooks.string.option .none) <|
    .app (.defaulted Overlooks.string.option .none) <|
    .app (.optional .nothing) <|
    .app (.optional .nothing) <|
    .const <| by
      rintro start _ rfl finish _ rfl venue venue' hvenue judge judge' hjudge members members'
        hmembers attendees _ rfl
      simp only [session, bind_ofText?_congr hvenue, bind_ofText?_congr hjudge,
        filterMap_ofText?_congr hmembers]

end ScheduledDay

namespace RequestPart

def unpad : Json → Json := record.unpad [("hearingRequestID", Json.unpad)]

/-- The parts say the same of the hearing, and of its id as far as they name one. -/
structure Same (p q : RequestPart) : Prop where
  hearingId : (p.hearingId.bind Identifier.ofText? : Option HearingId) =
    q.hearingId.bind Identifier.ofText?
  status : p.status = q.status
  reasons : p.reasons = q.reasons

theorem overlooks : Overlooks Same record.decode unpad :=
  Record.Overlooks.decoder (by decide) <|
    .app (.defaulted .nothing rfl) <|
    .app (.required .nothing) <|
    .app (.defaulted Overlooks.string.option .none) <|
    .const <| by
      rintro id id' hid status _ rfl reasons _ rfl
      exact ⟨bind_ofText?_congr hid, rfl, rfl⟩

end RequestPart

namespace ResponsePart

def unpad : Json → Json := record.unpad [("hearingDaySchedule", unpadEach ScheduledDay.unpad)]

structure Same (p q : ResponsePart) : Prop where
  listing : p.listing = q.listing
  sessions : p.schedule.map ScheduledDay.session = q.schedule.map ScheduledDay.session

theorem overlooks : Overlooks Same record.decode unpad :=
  Record.Overlooks.decoder (by decide) <|
    .app (.defaulted ScheduledDay.overlooks.list .nil) <|
    .app (.optional .nothing) <|
    .const <| by
      rintro listing _ rfl days days' hdays
      refine ⟨rfl, ?_⟩
      rw [← List.forall₂_eq_eq_eq]
      exact List.forall₂_map_left_iff.mpr (List.forall₂_map_right_iff.mpr hdays)

end ResponsePart

namespace HearingAnswer

def unpad : Json → Json := record.unpad
  [("requestDetails", RequestPart.unpad), ("hearingResponse", ResponsePart.unpad)]

theorem overlooks (requested : HearingId) :
    Overlooks (fun a b => a.detail requested = b.detail requested) decode unpad :=
  Record.Overlooks.decoder (by decide) <|
    .app (.defaulted ResponsePart.overlooks ⟨rfl, rfl⟩) <|
    .app (.required RequestPart.overlooks) <|
    .const <| by
      intro request request' hrequest response response' hresponse
      simp only [detail, hrequest.hearingId, hrequest.status, hrequest.reasons, hresponse.listing,
        hresponse.sessions]

end HearingAnswer

end HearingSync
