import HearingSync.Proofs.CaseServer.Acceptance
import HearingSync.Proofs.Http.Hearings
import HearingSync.Proofs.Http.Scripts
/-!
Messages whose hearing cannot be fetched. Main statement: an answer in which no hearing can be read
ends the message with a failed fetch, and the message may be handed in again, as after a request for
which no response came. So a message that gets the same answer each time is never put aside.
-/

namespace HearingSync

namespace Client

variable {c : Client} {id : HearingId} {request : Request} {e : ClientError}

theorem run_hearing_of_response (hruntime : c.hasRuntime = true)
    (hrequest : c.request .get ("hearing/" ++ id.text) none = .ok request) {k : Nat}
    (hk : k ≤ c.maxRetries) (r : Response) (rest : List Reply) :
    (c.hearing id).run.run (List.replicate k .dropped ++ .response r :: rest) =
      (heard id r, List.replicate (k + 1) request) := by
  rw [run_hearing hruntime, send, Exchange.run_return (run_retry_of_response hrequest hk r rest)]
  rfl

theorem run_hearing_of_dropped (hruntime : c.hasRuntime = true)
    (hrequest : c.request .get ("hearing/" ++ id.text) none = .ok request) (rest : List Reply) :
    (c.hearing id).run.run (List.replicate (c.maxRetries + 1) .dropped ++ rest) =
      (.error (.transport (hearingEndpoint id) (dropCause request)),
        List.replicate (c.maxRetries + 1) request) := by
  rw [run_hearing hruntime, send, Exchange.run_return (run_retry_of_dropped hrequest _ rest)]
  rfl

/-- No answer is read and then found to be of no use. -/
theorem isInvalidDetail_of_readBody {α : Type} {endpoint : String} {decode : Decoder α}
    {r : Response} (h : readBody endpoint decode r = .error e) : e.isInvalidDetail = false := by
  unfold readBody at h
  by_cases hs : r.isSuccess = true
  · rw [if_pos hs] at h
    cases hd : Json.decodeText decode r.body with
    | ok a => rw [hd] at h; cases h
    | error cause => rw [hd] at h; cases h; rfl
  · rw [if_neg hs] at h
    cases h
    rfl

theorem isInvalidDetail_of_toldOf {sent : Except String Response}
    (h : toldOf id sent = .error e) : e.isInvalidDetail = false := by
  cases sent with
  | error cause => cases h; rfl
  | ok r =>
    cases hr : readBody (hearingEndpoint id) HearingAnswer.decode r with
    | ok answer => rw [toldOf, heard, hr] at h; cases h
    | error e' =>
      rw [toldOf, heard, hr] at h
      cases h
      exact isInvalidDetail_of_readBody hr

theorem isInvalidDetail_of_run_hearing {script : List Reply} {requests : List Request}
    (h : (c.hearing id).run.run script = (.error e, requests)) : e.isInvalidDetail = false := by
  by_cases hruntime : c.hasRuntime = true
  · rw [run_hearing hruntime, Exchange.run_return rfl] at h
    exact isInvalidDetail_of_toldOf (Prod.mk.inj h).1
  · rw [run_hearing_of_noRuntime hruntime] at h
    cases h
    rfl

end Client

namespace Online

variable {α β : Type} {notes notes' : List Note} {script : List Reply} {a : α}
  {requests : List Request}

theorem run_liftM {x : Exchange α} (h : x.run script = (a, requests)) :
    ((liftM x : Online α).run notes).run script = ((a, notes), requests) :=
  Exchange.run_return (f := fun a => (a, notes)) h

theorem run_map {x : Online α} (f : α → β)
    (h : (x.run notes).run script = ((a, notes'), requests)) :
    ((f <$> x).run notes).run script = ((f a, notes'), requests) :=
  Exchange.run_return (f := fun p : α × List Note => (f p.1, p.2)) h

theorem run_bind {x : Online α} {f : α → Online β}
    (h : (x.run notes).run script = ((a, notes'), requests)) :
    ((x >>= f).run notes).run script =
      ((((f a).run notes').run (script.drop requests.length)).1,
        requests ++ (((f a).run notes').run (script.drop requests.length)).2) :=
  Exchange.run_bind (f := fun p : α × List Note => (f p.1).run p.2) h

end Online

namespace Clients

variable {clients : Clients} {venues : VenueTable} {now : Instant} {settings : Settings}
  {message : HearingMessage}

theorem run_reconcile_of_unfetched {script : List Reply} {e : ClientError} {requests : List Request}
    (h : (clients.hearings.hearing message.hearingId).run.run script = (.error e, requests)) :
    ((Reconcile.reconcile (clients.collaborators venues now) settings message).run.run []).run
      script = ((.error (.fetch message.hearingId e), []), requests) := by
  have hfetch : ((((clients.collaborators venues now).hearing message.hearingId).adapt
      (ReconcileError.fetch message.hearingId)).run.run []).run script =
      ((.error (.fetch message.hearingId e), []), requests) :=
    Online.run_map (Except.mapError (ReconcileError.fetch message.hearingId)) (Online.run_liftM h)
  rw [Reconcile.reconcile, ExceptT.run_bind, Online.run_bind hfetch]
  exact Prod.ext rfl (List.append_nil requests)

/-- A failed fetch is the last that is done for a message. -/
theorem run_process_of_unfetched {script : List Reply} {e : ClientError} {requests : List Request}
    (h : (clients.hearings.hearing message.hearingId).run.run script = (.error e, requests)) :
    ∃ notes, (clients.process venues now settings message).run script =
      ((.error (.fetch message.hearingId e), notes), requests) := by
  refine ⟨[.log .warn "hearing event failed, case left unchanged", .failed "fetch"], ?_⟩
  rw [process, HearingSync.process, ExceptT.run_mk, Online.run_bind (run_reconcile_of_unfetched h)]
  exact Prod.ext rfl (List.append_nil requests)

/-- Whatever the listing service answers, a message whose hearing is not fetched fails after the
requests of the fetch, and may be handed in again. So it does where no hearing can be read in a
response that is a success, and where no response came. -/
theorem failed_fetches_retried (clients : Clients) (venues : VenueTable) (now : Instant)
    (settings : Settings) (message : HearingMessage) (request : Request)
    (hruntime : clients.hearings.hasRuntime = true)
    (hrequest : clients.hearings.request .get ("hearing/" ++ message.hearingId.text) none =
      .ok request) :
    (∀ k ≤ clients.hearings.maxRetries, ∀ (r : Response) (rest : List Reply), r.isSuccess = true →
      (∀ answer, Json.decodeText HearingAnswer.decode r.body ≠ .ok answer) →
      ∃ e notes, (clients.process venues now settings message).run
          (List.replicate k .dropped ++ .response r :: rest) =
        ((.error e, notes), List.replicate (k + 1) request) ∧
        e = .fetch message.hearingId
          (.unreadable (Client.hearingEndpoint message.hearingId) Client.unreadableBody) ∧
        e.isRetryable = true) ∧
    (∀ rest : List Reply, ∃ e notes, (clients.process venues now settings message).run
          (List.replicate (clients.hearings.maxRetries + 1) .dropped ++ rest) =
        ((.error e, notes), List.replicate (clients.hearings.maxRetries + 1) request) ∧
        e = .fetch message.hearingId (.transport (Client.hearingEndpoint message.hearingId)
          (Client.dropCause request)) ∧
        e.isRetryable = true) ∧
    ∀ (script : List Reply) (cause : ClientError) (requests : List Request),
      (clients.hearings.hearing message.hearingId).run.run script = (.error cause, requests) →
      ∃ e notes, (clients.process venues now settings message).run script =
        ((.error e, notes), requests) ∧
        e = .fetch message.hearingId cause ∧ e.isRetryable = true := by
  have hfailed : ∀ (script : List Reply) (cause : ClientError) (requests : List Request),
      (clients.hearings.hearing message.hearingId).run.run script = (.error cause, requests) →
      ∃ e notes, (clients.process venues now settings message).run script =
        ((.error e, notes), requests) ∧
        e = .fetch message.hearingId cause ∧ e.isRetryable = true := by
    intro script cause requests h
    obtain ⟨notes, hprocess⟩ : ∃ notes, (clients.process venues now settings message).run script =
        ((.error (.fetch message.hearingId cause), notes), requests) := run_process_of_unfetched h
    refine ⟨_, notes, hprocess, rfl, ?_⟩
    simp [ReconcileError.isRetryable, Client.isInvalidDetail_of_run_hearing h]
  refine ⟨?_, ?_, hfailed⟩
  · intro k hk r rest hsuccess hunread
    apply hfailed
    rw [Client.run_hearing_of_response hruntime hrequest hk,
      Client.heard_of_undecoded hsuccess hunread]
  · intro rest
    exact hfailed _ _ _ (Client.run_hearing_of_dropped hruntime hrequest rest)

section Unread

def patientClients : Clients :=
  { plainClients with hearings := { Traffic.plainClient with maxRetries := 1 } }

def statuslessBody : String := "\x7b\"requestDetails\":\x7b\"status\":null\x7d\x7d"

def hearingRequest : Request := Traffic.plainRequest .get ["hearing", "53"] none

theorem hearing_request : patientClients.hearings.request .get
    ("hearing/" ++ failedHearing.hearingId.text) none = .ok hearingRequest :=
  Traffic.plainClient_request .get none (by decide +kernel) (by decide +kernel) (by decide +kernel)

theorem statuslessBody_unread (answer : HearingAnswer) :
    Json.decodeText HearingAnswer.decode statuslessBody ≠ .ok answer := by
  intro h
  have hnone : (Json.decodeText HearingAnswer.decode statuslessBody).toOption = none := by
    decide +kernel
  rw [h] at hnone
  cases hnone

theorem failed_fetches_retried_statusless :
    patientClients.hearings.hasRuntime = true ∧
    patientClients.hearings.request .get ("hearing/" ++ failedHearing.hearingId.text) none =
      .ok hearingRequest ∧
    ∃ e notes, (patientClients.process {} afterHearing {} failedHearing).run
        [.dropped, .response ⟨200, statuslessBody⟩] =
      ((.error e, notes), [hearingRequest, hearingRequest]) ∧ e.isRetryable = true := by
  obtain ⟨hunread, -, -⟩ := failed_fetches_retried patientClients {} afterHearing {} failedHearing
    hearingRequest rfl hearing_request
  obtain ⟨e, notes, hrun, -, hretry⟩ :=
    hunread 1 (Nat.le_refl 1) ⟨200, statuslessBody⟩ [] rfl statuslessBody_unread
  simp only [List.replicate_succ, List.replicate_zero, List.cons_append, List.nil_append] at hrun
  exact ⟨rfl, hearing_request, e, notes, hrun, hretry⟩

/-- A message may be handed in again and again, and get the same answer each time. -/
theorem unread_hearing_retried : ¬∀ (clients : Clients) (venues : VenueTable) (now : Instant)
    (settings : Settings) (message : HearingMessage) (r : Response) (e : ReconcileError)
    (notes : List Note) (requests : List Request), r.isSuccess = true →
    (∀ answer, Json.decodeText HearingAnswer.decode r.body ≠ .ok answer) →
    (clients.process venues now settings message).run [.response r] =
      ((.error e, notes), requests) → e.isRetryable = false := by
  intro hdead
  have hruntime : patientClients.hearings.hasRuntime = true := rfl
  have hunfetched := Client.run_hearing_of_response hruntime hearing_request (Nat.zero_le 1)
    ⟨200, statuslessBody⟩ []
  have hunread : Client.heard failedHearing.hearingId ⟨200, statuslessBody⟩ = .error (.unreadable
      (Client.hearingEndpoint failedHearing.hearingId) Client.unreadableBody) :=
    Client.heard_of_undecoded rfl statuslessBody_unread
  rw [hunread] at hunfetched
  obtain ⟨notes, hrun⟩ : ∃ notes, (patientClients.process {} afterHearing {} failedHearing).run
      [.response ⟨200, statuslessBody⟩] = ((.error (.fetch failedHearing.hearingId (.unreadable
        (Client.hearingEndpoint failedHearing.hearingId) Client.unreadableBody)), notes),
        [hearingRequest]) := run_process_of_unfetched hunfetched
  have h := hdead patientClients {} afterHearing {} failedHearing ⟨200, statuslessBody⟩ _ notes _
    rfl statuslessBody_unread hrun
  cases h

end Unread

end Clients

end HearingSync
