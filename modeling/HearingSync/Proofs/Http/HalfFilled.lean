import HearingSync.Http.Hearings
import HearingSync.Proofs.Json.Reading
/-!
Answers of the listing service with half-filled schedules: of every day, whatever it has may be
missing or null. Main statements: such an answer is read, unless one of the two lists of a day is
null; then it is not.
-/

namespace HearingSync

namespace Json

def IsText (j : Json) : Prop := ∃ s, j = .string s

def OrNull (p : Json → Prop) (j : Json) : Prop := j = .null ∨ p j

def IsListOf (p : Json → Prop) (j : Json) : Prop := ∃ items, j = .array items ∧ ∀ i ∈ items, p i

def IsObjectWith (p : List (String × Json) → Prop) (j : Json) : Prop :=
  ∃ members, j = .object members ∧ p members

end Json

open Json (IsText OrNull IsListOf IsObjectWith)

/-- What is there under the name, if anything is, is of that kind. -/
def Record.MayHold (members : List (String × Json)) (name : String) (p : Json → Prop) : Prop :=
  ∀ j, Record.lookup members name = some j → p j

open Record (MayHold)

structure Attendee.HalfFilled (members : List (String × Json)) : Prop where
  tidy : Attendee.record.Tidy members
  partyId : MayHold members "partyId" (OrNull IsText)
  subChannel : MayHold members "hearingSubChannel" (OrNull IsText)

structure ScheduledDay.HalfFilled (members : List (String × Json)) : Prop where
  tidy : ScheduledDay.record.Tidy members
  start : MayHold members "hearingStartDateTime" (OrNull IsText)
  finish : MayHold members "hearingEndDateTime" (OrNull IsText)
  venue : MayHold members "hearingVenueEpimsId" (OrNull IsText)
  judge : MayHold members "hearingJudgeId" (OrNull IsText)
  panelMembers : MayHold members "panelMemberIds" (OrNull (IsListOf IsText))
  attendees : MayHold members "attendees" (OrNull (IsListOf (IsObjectWith Attendee.HalfFilled)))

def ScheduledDay.ListsNull (members : List (String × Json)) : Prop :=
  Record.lookup members "panelMemberIds" = some .null ∨
    Record.lookup members "attendees" = some .null

structure ResponsePart.HalfFilled (members : List (String × Json))
    (days : List (List (String × Json))) : Prop where
  tidy : ResponsePart.record.Tidy members
  listing : MayHold members "listingStatus"
    fun j => ∃ listing, Json.decodeOption ListingStatus.decode j = .ok listing
  schedule : Record.lookup members "hearingDaySchedule" = some (.array (days.map .object)) ∨
    Record.lookup members "hearingDaySchedule" = none ∧ days = []
  each : ∀ day ∈ days, ScheduledDay.HalfFilled day

structure HearingAnswer.HalfFilled (members : List (String × Json)) (request : RequestPart)
    (days : List (List (String × Json))) : Prop where
  tidy : HearingAnswer.record.Tidy members
  request : ∃ j, Record.lookup members "requestDetails" = some j ∧
    RequestPart.record.decode j = .ok request
  response : (∃ response, Record.lookup members "hearingResponse" = some (.object response) ∧
      ResponsePart.HalfFilled response days) ∨
    Record.lookup members "hearingResponse" = none ∧ days = []

namespace Record

variable {α : Type} {members : List (String × Json)} {name : String}

theorem Reads.exists_text (h : MayHold members name (OrNull IsText)) :
    ∃ text, (optional name Json.decodeString).Reads (lookup members) text := by
  refine exists_defaulted fun j hj => ?_
  rcases h j hj with rfl | ⟨s, rfl⟩
  · exact ⟨none, rfl⟩
  · exact ⟨some s, rfl⟩

/-- A list that is not null is read if each of its items is. -/
theorem Reads.exists_list {decode : Decoder α} {p : Json → Prop}
    (h : MayHold members name (OrNull (IsListOf p))) (hnull : lookup members name ≠ some .null)
    (hwhole : (Json.object members).isWhole = true)
    (hitem : ∀ j, j.isWhole = true → p j → ∃ a, decode j = .ok a) :
    ∃ as, (Record.defaulted name (Json.decodeList decode) []).Reads (lookup members) as := by
  refine exists_defaulted fun j hj => ?_
  rcases h j hj with rfl | ⟨items, rfl, hitems⟩
  · exact absurd hj hnull
  · have hlist := Json.isWhole_of_mem_object hwhole (mem_of_find? hj)
    exact Json.exists_decodeItems_iff.mpr fun i hi =>
      hitem i (Json.isWhole_of_mem_array hlist hi) (hitems i hi)

end Record

section Whole

variable {members : List (String × Json)} {days : List (List (String × Json))}

theorem Attendee.HalfFilled.decodes (h : Attendee.HalfFilled members)
    (hwhole : (Json.object members).isWhole = true) :
    ∃ a, Attendee.record.decode (.object members) = .ok a := by
  obtain ⟨partyId, hpartyId⟩ := Record.Reads.exists_text h.partyId
  obtain ⟨subChannel, hsubChannel⟩ := Record.Reads.exists_text h.subChannel
  have hreads : Attendee.record.Reads (Record.lookup members) ⟨partyId, subChannel⟩ :=
    .app (.app (.const _) hpartyId) hsubChannel
  exact ⟨_, hreads.decode_of_isWhole h.tidy hwhole⟩

namespace ScheduledDay

theorem HalfFilled.decodes (h : HalfFilled members) (hlists : ¬ListsNull members)
    (hwhole : (Json.object members).isWhole = true) :
    ∃ day, record.decode (.object members) = .ok day := by
  obtain ⟨start, hstart⟩ := Record.Reads.exists_text h.start
  obtain ⟨finish, hfinish⟩ := Record.Reads.exists_text h.finish
  obtain ⟨venue, hvenue⟩ := Record.Reads.exists_text h.venue
  obtain ⟨judge, hjudge⟩ := Record.Reads.exists_text h.judge
  have hcode : ∀ j : Json, j.isWhole = true → IsText j →
      ∃ code, Json.decodeString j = .ok code := by
    rintro j - ⟨s, rfl⟩
    exact ⟨s, rfl⟩
  obtain ⟨panelMembers, hpanel⟩ := Record.Reads.exists_list h.panelMembers
    (fun hnull => hlists (.inl hnull)) hwhole hcode
  have hattendee : ∀ j : Json, j.isWhole = true → IsObjectWith Attendee.HalfFilled j →
      ∃ a, Attendee.record.decode j = .ok a := by
    rintro j hj ⟨attendee, rfl, hattendee⟩
    exact hattendee.decodes hj
  obtain ⟨attendees, hattendees⟩ := Record.Reads.exists_list h.attendees
    (fun hnull => hlists (.inr hnull)) hwhole hattendee
  have hreads : record.Reads (Record.lookup members)
      ⟨start, finish, venue, judge, panelMembers, attendees⟩ :=
    .app (.app (.app (.app (.app (.app (.const _) hstart) hfinish) hvenue) hjudge) hpanel)
      hattendees
  exact ⟨_, hreads.decode_of_isWhole h.tidy hwhole⟩

/-- A list of a day may be missing, but it may not be null. -/
theorem ListsNull.not_decodes (h : ListsNull members) (day : ScheduledDay) :
    record.decode (.object members) ≠ .ok day := by
  intro hday
  have hnames : (record.fields.map Prod.fst).Nodup := by decide
  rcases h with hnull | hnull
  · have hpanel : ("panelMemberIds", Json.check (Json.decodeList Json.decodeString)) ∈
        record.fields :=
      List.mem_append_left _ (List.mem_append_right _ (List.mem_singleton_self _))
    obtain ⟨codes, hcodes⟩ := Record.exists_of_decode hnames hday hpanel hnull
    cases hcodes
  · have hattendees : ("attendees", Json.check (Json.decodeList Attendee.record.decode)) ∈
        record.fields := List.mem_append_right _ (List.mem_singleton_self _)
    obtain ⟨attendees, h⟩ := Record.exists_of_decode hnames hday hattendees hnull
    cases h

end ScheduledDay

namespace ResponsePart

theorem HalfFilled.decodes (h : HalfFilled members days)
    (hlists : ∀ day ∈ days, ¬ScheduledDay.ListsNull day)
    (hwhole : (Json.object members).isWhole = true) :
    ∃ part, record.decode (.object members) = .ok part ∧ part.schedule.length = days.length := by
  obtain ⟨listing, hlisting⟩ :
      ∃ listing, (Record.optional "listingStatus" ListingStatus.decode).Reads
        (Record.lookup members) listing := Record.Reads.exists_defaulted h.listing
  obtain ⟨schedule, hschedule, hlength⟩ :
      ∃ schedule, (Record.defaulted "hearingDaySchedule"
        (Json.decodeList ScheduledDay.record.decode) []).Reads (Record.lookup members) schedule ∧
        schedule.length = days.length := by
    rcases h.schedule with hdays | ⟨hnone, rfl⟩
    · have hlist := Json.isWhole_of_mem_object hwhole (Record.mem_of_find? hdays)
      obtain ⟨schedule, hread⟩ : ∃ schedule, Json.decodeItems ScheduledDay.record.decode
          (days.map .object) = .ok schedule := by
        refine Json.exists_decodeItems_iff.mpr fun j hj => ?_
        obtain ⟨day, hday, rfl⟩ := List.mem_map.mp hj
        exact (h.each day hday).decodes (hlists day hday) (Json.isWhole_of_mem_array hlist hj)
      refine ⟨schedule, .found hdays hread, ?_⟩
      rw [Json.length_of_decodeItems hread, List.length_map]
    · exact ⟨[], .absent hnone, rfl⟩
  have hreads : record.Reads (Record.lookup members) ⟨listing, schedule⟩ :=
    .app (.app (.const _) hlisting) hschedule
  exact ⟨_, hreads.decode_of_isWhole h.tidy hwhole, hlength⟩

theorem HalfFilled.not_decodes (h : HalfFilled members days)
    (hlists : ∃ day ∈ days, ScheduledDay.ListsNull day) (part : ResponsePart) :
    record.decode (.object members) ≠ .ok part := by
  intro hpart
  obtain ⟨day, hday, hnull⟩ := hlists
  have hnames : (record.fields.map Prod.fst).Nodup := by decide
  have hfield : ("hearingDaySchedule", Json.check (Json.decodeList ScheduledDay.record.decode)) ∈
      record.fields := List.mem_append_right _ (List.mem_singleton_self _)
  rcases h.schedule with hdays | ⟨-, rfl⟩
  · have hitems := Json.exists_decodeItems_iff.mp
      (Record.exists_of_decode hnames hpart hfield hdays)
    obtain ⟨read, hread⟩ := hitems (.object day) (List.mem_map_of_mem hday)
    exact hnull.not_decodes read hread
  · cases hday

end ResponsePart

namespace HearingAnswer

variable {request : RequestPart}

theorem HalfFilled.decodes (h : HalfFilled members request days)
    (hlists : ∀ day ∈ days, ¬ScheduledDay.ListsNull day)
    (hwhole : (Json.object members).isWhole = true) :
    ∃ answer, decode (.object members) = .ok answer ∧ answer.request = request ∧
      answer.response.schedule.length = days.length := by
  obtain ⟨j, hj, hrequest⟩ := h.request
  obtain ⟨response, hresponse, hlength⟩ :
      ∃ response, (Record.defaulted "hearingResponse" ResponsePart.record.decode {}).Reads
        (Record.lookup members) response ∧ response.schedule.length = days.length := by
    rcases h.response with ⟨object, hlook, hfilled⟩ | ⟨hnone, rfl⟩
    · obtain ⟨response, hread, hlength⟩ := hfilled.decodes hlists
        (Json.isWhole_of_mem_object hwhole (Record.mem_of_find? hlook))
      exact ⟨response, .found hlook hread, hlength⟩
    · exact ⟨{}, .absent hnone, rfl⟩
  have hreads : record.Reads (Record.lookup members) ⟨request, response⟩ :=
    .app (.app (.const _) (.required hj hrequest)) hresponse
  exact ⟨_, hreads.decode_of_isWhole h.tidy hwhole, rfl, hlength⟩

theorem HalfFilled.not_decodes (h : HalfFilled members request days)
    (hlists : ∃ day ∈ days, ScheduledDay.ListsNull day) (answer : HearingAnswer) :
    decode (.object members) ≠ .ok answer := by
  intro hanswer
  have hnames : (record.fields.map Prod.fst).Nodup := by decide
  have hfield : ("hearingResponse", Json.check ResponsePart.record.decode) ∈ record.fields :=
    List.mem_append_right _ (List.mem_singleton_self _)
  rcases h.response with ⟨response, hlook, hfilled⟩ | ⟨-, rfl⟩
  · obtain ⟨part, hpart⟩ := Record.exists_of_decode hnames hanswer hfield hlook
    exact hfilled.not_decodes hlists part hpart
  · obtain ⟨day, hday, -⟩ := hlists
    cases hday

end HearingAnswer

end Whole

end HearingSync
