import HearingSync.Http.Hearings
import HearingSync.Proofs.Http.Sending
/-!
What is made of the listing service's answer. Main statements: a response that came is read,
whatever went before it, and the session made of a day holds what its texts say, blank codes and
times that cannot be read left out.
-/

namespace HearingSync

open Runs (Run)

namespace Client

def hearingEndpoint (id : HearingId) : String := "GET /" ++ ("hearing/" ++ id.text)

def heard (id : HearingId) (r : Response) : Except ClientError HearingDetail :=
  (readBody (hearingEndpoint id) HearingAnswer.decode r).map (·.detail id)

def toldOf (id : HearingId) : Except String Response → Except ClientError HearingDetail
  | .error cause => .error (.transport (hearingEndpoint id) cause)
  | .ok r => heard id r

variable {c : Client} {id : HearingId} {r : Response}

theorem run_hearing (h : c.hasRuntime = true) :
    (c.hearing id).run = (do return toldOf id (← c.send .get ("hearing/" ++ id.text) none)) := by
  unfold hearing
  have hruntime : ¬(!c.hasRuntime) = true := by simp [h]
  rw [if_neg hruntime]
  refine Exchange.run_lift_bind fun sent => ?_
  cases sent with
  | error cause => rfl
  | ok r =>
    change (do
      let answer ← liftExcept (readBody (hearingEndpoint id) HearingAnswer.decode r)
      return answer.detail id : ExceptT ClientError Exchange HearingDetail).run = _
    rw [toldOf, heard]
    cases readBody (hearingEndpoint id) HearingAnswer.decode r <;> rfl

theorem run_hearing_of_noRuntime (h : ¬c.hasRuntime = true) :
    (c.hearing id).run = .done (.error (.noRuntime "GET /hearing")) := by
  unfold hearing
  have hno : (!c.hasRuntime) = true := by simpa using h
  rw [if_pos hno]
  rfl

theorem Sent.response {method : Method} {path : String} {body : Option Json} {n : Nat}
    {u : List Turn} {request : Request} {answer : Except String Response}
    (h : c.Sent method path body n (u ++ [⟨request, .response r⟩]) answer) : answer = .ok r := by
  generalize hw : u ++ [⟨request, .response r⟩] = w at h
  have hlast : w.getLast? = some ⟨request, .response r⟩ := hw ▸ List.getLast?_concat
  cases h with
  | unsendable e _ => cases hlast
  | answered request' k r' _ _ =>
    rw [List.getLast?_concat] at hlast
    cases hlast
    rfl
  | dropped request' cause _ =>
    have hmem := List.eq_of_mem_replicate (List.mem_of_getLast? hlast)
    cases hmem

/-- A client that asks for the hearing may have this response in the end and tell this of it. -/
def HeardFrom (c : Client) (id : HearingId) (r : Response)
    (answer : Except ClientError HearingDetail) : Prop :=
  ∃ u request, (c.hearing id).run.Yields (u ++ [⟨request, .response r⟩]) answer

/-- What is told is read from the response, whatever went before it. -/
theorem HeardFrom.eq_heard {answer : Except ClientError HearingDetail}
    (h : c.HeardFrom id r answer) : answer = heard id r := by
  obtain ⟨u, request, h⟩ := h
  by_cases hruntime : c.hasRuntime = true
  · rw [run_hearing hruntime] at h
    obtain ⟨sent, hsend, rfl⟩ := Exchange.yields_return h
    rw [(sent_of_send hsend).response]
    rfl
  · rw [run_hearing_of_noRuntime hruntime] at h
    exact absurd (Exchange.yields_done h).1 (List.concat_ne_nil _ u)

/-- Where the request can be made, any response may come for it. -/
theorem heardFrom_of_request {request : Request} (hruntime : c.hasRuntime = true)
    (h : c.request .get ("hearing/" ++ id.text) none = .ok request) (r : Response) :
    c.HeardFrom id r (heard id r) := by
  refine ⟨[], request, ?_⟩
  rw [run_hearing hruntime, send, sendOnce, h]
  cases c.maxRetries with
  | zero => exact .send (.done (heard id r))
  | succ n => exact .send (.done (heard id r))

theorem heard_of_decoded {answer : HearingAnswer} (hr : r.isSuccess = true)
    (ha : Json.decodeText HearingAnswer.decode r.body = .ok answer) :
    heard id r = .ok (answer.detail id) := by
  unfold heard readBody
  rw [if_pos hr, ha]
  rfl

theorem heard_of_undecoded (hr : r.isSuccess = true)
    (ha : ∀ answer, Json.decodeText HearingAnswer.decode r.body ≠ .ok answer) :
    heard id r = .error (.unreadable (hearingEndpoint id) unreadableBody) := by
  unfold heard readBody
  rw [if_pos hr]
  cases h : Json.decodeText HearingAnswer.decode r.body with
  | error e => rfl
  | ok answer => exact absurd h (ha answer)

end Client

namespace ScheduledDay

def trimmed? (text : Option String) : Option String :=
  (text.map Text.trim).filter (· ≠ "")

def HasVenue (day : ScheduledDay) : Prop := ∃ text, day.venue = some text ∧ Text.trim text ≠ ""

def StartsAt (day : ScheduledDay) (t : Instant) : Prop :=
  ∃ text, day.start = some text ∧ Timestamp.readInstant text = .ok t

def EndsAt (day : ScheduledDay) (t : Instant) : Prop :=
  ∃ text, day.finish = some text ∧ Timestamp.readInstant text = .ok t

def IsHeldBy (day : ScheduledDay) (channel : Channel) : Prop :=
  ∃ before a after text, day.attendees = before ++ a :: after ∧ a.subChannel = some text ∧
    Channel.ofSubChannel? text = some channel ∧
    ∀ b ∈ before, ∀ text', b.subChannel = some text' → Channel.ofSubChannel? text' = none

structure ToldBy (day : ScheduledDay) (session : Session) : Prop where
  start : ∀ t, session.start = some t ↔ day.StartsAt t
  finish : ∀ t, session.finish = some t ↔ day.EndsAt t
  venue : session.venue.map Identifier.text = trimmed? day.venue
  judge : session.judge.map Identifier.text = trimmed? day.judge
  panelMembers : session.panelMembers.map Identifier.text =
    (day.panelMembers.map Text.trim).filter (· ≠ "")
  channel : ∀ channel, session.channel = some channel ↔ day.IsHeldBy channel

variable {k : IdentifierKind}

theorem text_ofText? (s : String) :
    (Identifier.ofText? s : Option (Identifier k)).map Identifier.text = trimmed? (some s) := by
  unfold Identifier.ofText? trimmed?
  by_cases h : Text.trim s = "" <;> simp [h, Option.filter]

theorem text_bind_ofText? (text : Option String) :
    (text.bind Identifier.ofText? : Option (Identifier k)).map Identifier.text = trimmed? text := by
  cases text with
  | none => rfl
  | some s => exact text_ofText? s

theorem texts_filterMap_ofText? (codes : List String) :
    (codes.filterMap Identifier.ofText? : List (Identifier k)).map Identifier.text =
      (codes.map Text.trim).filter (· ≠ "") := by
  induction codes with
  | nil => rfl
  | cons s codes ih =>
    by_cases h : Text.trim s = ""
    · have hnone : (Identifier.ofText? s : Option (Identifier k)) = none :=
        Identifier.ofText?_eq_none_iff.mpr h
      simp [hnone, h, ih]
    · obtain ⟨a, ha⟩ : ∃ a : Identifier k, Identifier.ofText? s = some a :=
        Option.ne_none_iff_exists'.mp fun hnone => h (Identifier.ofText?_eq_none_iff.mp hnone)
      simp [ha, h, ih, Identifier.text_of_ofText? ha]

theorem instant?_eq_some_iff {text : Option String} {t : Instant} :
    instant? text = some t ↔ ∃ s, text = some s ∧ Timestamp.readInstant s = .ok t := by
  unfold instant?
  rw [Option.bind_eq_some_iff]
  refine exists_congr fun s => and_congr_right fun _ => ?_
  cases Timestamp.readInstant s <;> simp [Except.toOption]

theorem channel?_eq_some_iff {day : ScheduledDay} {channel : Channel} :
    channel? day.attendees = some channel ↔ day.IsHeldBy channel := by
  unfold channel? IsHeldBy
  rw [List.findSome?_eq_some_iff]
  constructor
  · rintro ⟨before, a, after, hlist, ha, hbefore⟩
    obtain ⟨text, htext, hchannel⟩ := Option.bind_eq_some_iff.mp ha
    exact ⟨before, a, after, text, hlist, htext, hchannel,
      fun b hb => Option.bind_eq_none_iff.mp (hbefore b hb)⟩
  · rintro ⟨before, a, after, text, hlist, htext, hchannel, hbefore⟩
    exact ⟨before, a, after, hlist, Option.bind_eq_some_iff.mpr ⟨text, htext, hchannel⟩,
      fun b hb => Option.bind_eq_none_iff.mpr (hbefore b hb)⟩

theorem toldBy_session (day : ScheduledDay) : day.ToldBy day.session where
  start _ := instant?_eq_some_iff
  finish _ := instant?_eq_some_iff
  venue := text_bind_ofText? day.venue
  judge := text_bind_ofText? day.judge
  panelMembers := texts_filterMap_ofText? day.panelMembers
  channel _ := channel?_eq_some_iff

end ScheduledDay

end HearingSync
