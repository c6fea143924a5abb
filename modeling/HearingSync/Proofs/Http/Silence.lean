import HearingSync.Http.Collaborators
import HearingSync.Proofs.Http.Hearings
import HearingSync.Proofs.Http.Judicial
import HearingSync.Proofs.Reconcile.Deciding
import HearingSync.Proofs.Reconcile.Handling
/-!
Which requests are events, and who sends none. Main statement: the lookups of a message and the
fetch of its hearing send no event, so nothing but the case store does.
-/

namespace HearingSync

open Runs (Run)
open Networked (wire)

/-- An event is posted as a document that has the event as its first member. -/
def Turn.isEvent (t : Turn) : Bool :=
  t.isPost && match t.request.body with
    | some (.object ((key, _) :: _)) => key == "event"
    | _ => false

def Turn.isAccepted (t : Turn) : Bool :=
  match t.reply with
  | .response r => r.isSuccess
  | .dropped => false

theorem Turn.isEvent_of_get {t : Turn} {c : Client} {path : String} {body : Option Json}
    (h : c.request .get path body = .ok t.request) : t.isEvent = false := by
  simp [isEvent, isPost, Client.request_method h]

theorem Turn.isEvent_of_body {t : Turn} {update : CaseUpdate} {submission : Submission} {c : Client}
    {path : String}
    (h : c.request .post path (some (CaseServer.eventBody update submission)) = .ok t.request) :
    t.isEvent = true := by
  simp [isEvent, isPost, Client.request_method h, Client.request_body h, CaseServer.eventBody]

section Silent

variable {m : Type → Type} [Monad m] [MonadLiftT Exchange m] {σ τ : Type} [Runs m σ]
  [Networked m σ]

variable (m) in
def Silent (s t : σ) : Prop :=
  ∃ u, wire m t = wire m s ++ u ∧ ∀ turn ∈ u, turn.isEvent = false

instance : IsPreorder σ (Silent m) where
  refl s := ⟨[], (List.append_nil _).symm, fun _ h => by cases h⟩
  trans s t u := by
    rintro ⟨first, ht, hfirst⟩ ⟨second, hu, hsecond⟩
    exact ⟨first ++ second, by rw [hu, ht, List.append_assoc],
      List.forall_mem_append.mpr ⟨hfirst, hsecond⟩⟩

theorem silent_of_wire {s t : σ} (h : wire m t = wire m s) : Silent m s t :=
  ⟨[], h.trans (List.append_nil _).symm, fun _ h => by cases h⟩

theorem Keeps.lift {α : Type} {x : Exchange α} (hx : Keeps (Silent Exchange) x) :
    Keeps (Silent m) (liftM x : m α) := by
  intro s a t h
  obtain ⟨u, rfl, hyields⟩ := Networked.of_lift h
  obtain ⟨u', hu, hsilent⟩ := hx [] a u ⟨u, rfl, hyields⟩
  obtain rfl : u = u' := hu
  exact ⟨u, Networked.wire_speak s u, hsilent⟩

end Silent

namespace Client

variable {c : Client}

theorem silent_of_send {method : Method} {path : String} {body : Option Json}
    (h : ∀ t : Turn, c.request method path body = .ok t.request → t.isEvent = false) :
    Keeps (Silent Exchange) (c.send method path body) := by
  rintro s answer _ ⟨u, rfl, hu⟩
  exact ⟨u, rfl, fun t ht => h t ((sent_of_send hu).request ht)⟩

/-- A program that gives up before it sends anything. -/
theorem silent_of_done {α : Type} (a : α) : Keeps (Silent Exchange) (Exchange.done a) := by
  rintro s b _ ⟨u, rfl, hu⟩
  obtain ⟨rfl, -⟩ := Exchange.yields_done hu
  exact silent_of_wire (List.append_nil s)

/-- A program that sends a request and tells what comes of it. -/
theorem silent_of_told {α : Type} {x : Exchange (Except String Response)}
    (hx : Keeps (Silent Exchange) x) (told : Except String Response → α) :
    Keeps (Silent Exchange) (do return told (← x)) := by
  rintro s a _ ⟨u, rfl, hu⟩
  obtain ⟨sent, hsent, -⟩ := Exchange.yields_return hu
  exact hx s sent _ ⟨u, rfl, hsent⟩

theorem silent_hearing (id : HearingId) : Keeps (Silent Exchange) (c.hearing id).run := by
  by_cases hruntime : c.hasRuntime = true
  · rw [run_hearing hruntime]
    exact silent_of_told (silent_of_send fun t => Turn.isEvent_of_get) (toldOf id)
  · rw [run_hearing_of_noRuntime hruntime]
    exact silent_of_done _

theorem silent_judge (code : PersonalCode) : Keeps (Silent Exchange) (c.judge? code).run := by
  -- This is posted too, but the document has another first member.
  have hbody (t : Turn) (h : c.request .post judgesPath (some (judgesBody code)) = .ok t.request) :
      t.isEvent = false := by
    simp [Turn.isEvent, request_body h, judgesBody]
  by_cases hruntime : c.hasRuntime = true
  · rw [run_judge hruntime]
    exact silent_of_told (silent_of_send hbody) (judgedOf code)
  · rw [run_judge_of_noRuntime hruntime]
    exact silent_of_done _

end Client

namespace Clients

variable {clients : Clients} {venues : VenueTable} {now : Instant}

/-- The journal is not on the wire. -/
theorem quiet : Quiet (wire Online) (clients.collaborators venues now).note := by
  rintro n s a t ⟨u, hu, h⟩
  obtain ⟨rfl, -⟩ := Exchange.yields_done h
  exact hu.trans (List.append_nil _)

theorem silent_fetched (id : HearingId) :
    Keeps (Silent Online) ((clients.collaborators venues now).hearing id).run :=
  (Client.silent_hearing id).lift

theorem consults : (clients.collaborators venues now).Consults (Silent Online) where
  venue code := .exceptPure (venues.find? code)
  judge code := (Client.silent_judge code).lift
  now := by
    intro s a t h
    obtain ⟨-, rfl⟩ := Runs.of_pure h
    exact refl_of (Silent Online) t
  note n s a t h := silent_of_wire (quiet n s a t h)

end Clients

end HearingSync
