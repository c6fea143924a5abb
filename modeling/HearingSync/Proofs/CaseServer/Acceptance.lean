import HearingSync.Proofs.CaseServer.Events
import HearingSync.Proofs.CaseServer.NoLostUpdate
/-!
What an accepted event comes to. Main statement: a message with an accepted event is reported as
committed, at the version in the answer, unless the answer cannot be read. A run follows in which
the event is accepted and the message fails all the same.
-/

namespace HearingSync.Clients

/-- Whatever the servers answer, an accepted event is reported: as a commit at the version that the
server answered, or as an unavailable store where no case can be read in the answer. And there is no
commit without an accepted event of that version. -/
theorem accepted_events_reported (clients : Clients) (venues : VenueTable) (now : Instant)
    (settings : Settings) (message : HearingMessage) (script : List Reply) :
    ∃ turns result notes, (clients.process venues now settings message).transcript script = turns ∧
      (clients.process venues now settings message).run script =
        ((result, notes), turns.map Turn.request) ∧
      (∀ t ∈ turns, t.isEvent = true → t.isAccepted = true →
        (∃ b d event, t.document? CaseSnapshot.decode = some b ∧
          result = .ok (.committed d event b.version)) ∨
        t.document? CaseSnapshot.decode = none ∧
          ∃ id, result = .error (.store (CaseServer.unreadable id))) ∧
      ∀ d event version, result = .ok (.committed d event version) →
        ∃ t ∈ turns, t.isEvent = true ∧ t.isAccepted = true ∧
          ∃ b, t.document? CaseSnapshot.decode = some b ∧ b.version = version := by
  have hturns := messageTurns_transcript clients venues now settings message script
  refine ⟨_, ((clients.process venues now settings message).run script).1.1,
    ((clients.process venues now settings message).run script).1.2, rfl, ?_, ?_, ?_⟩
  · rw [Exchange.transcript_requests]
  · exact fun t ht he ha => hturns.accepted ht he ha
  · exact fun d event version hr => hturns.committed hr

def plainClients : Clients := ⟨Traffic.plainClient, Traffic.plainClient, Traffic.plainClient⟩

def failedHearing : HearingMessage where
  serviceCode := "BBA3"
  caseId := ⟨"43", by decide, by decide⟩
  hearingId := ⟨"53", by decide, by decide⟩
  reportedStatus := .exception

def afterHearing : Instant := ⟨{ date := ⟨20200⟩, second := 32400, nano := 250 }⟩

def exceptionBody : String := "\x7b\"requestDetails\":\x7b\"status\":\"EXCEPTION\"\x7d\x7d"

def issuedBody : String :=
  "\x7b\"token\":\"t\",\"case\":\x7b\"data\":\x7b\"caseId\":\"43\",\"state\":\"hearing\"\x7d," ++
    "\"version\":4\x7d\x7d"

/-- The event is accepted with an answer that is no case. -/
def wordyAnswer : List Reply :=
  [.response ⟨200, exceptionBody⟩, .response ⟨200, issuedBody⟩, .response ⟨202, "Accepted"⟩]

theorem wordyAnswer_accepts : ((plainClients.process {} afterHearing {} failedHearing).transcript
    wordyAnswer).any (fun t => t.isEvent && t.isAccepted) = true := by decide +kernel

theorem wordyAnswer_fails : ((plainClients.process {} afterHearing {} failedHearing).run
    wordyAnswer).1.1.toOption = none := by decide +kernel

/-- A failed message may have had its event accepted. -/
theorem failed_message_accepted : ¬ ∀ (clients : Clients) (venues : VenueTable) (now : Instant)
    (settings : Settings) (message : HearingMessage) (script : List Reply) (e : ReconcileError),
    ((clients.process venues now settings message).run script).1.1 = .error e →
    ∀ t ∈ (clients.process venues now settings message).transcript script,
      t.isEvent = true → t.isAccepted = false := by
  intro h
  cases hresult : ((plainClients.process {} afterHearing {} failedHearing).run wordyAnswer).1.1 with
  | ok outcome =>
    have hnone := wordyAnswer_fails
    rw [hresult] at hnone
    cases hnone
  | error e =>
    obtain ⟨t, ht, hevent⟩ := List.any_eq_true.mp wordyAnswer_accepts
    obtain ⟨he, ha⟩ := Bool.and_eq_true_iff.mp hevent
    have hrefused := h plainClients {} afterHearing {} failedHearing wordyAnswer e hresult t ht he
    rw [ha] at hrefused
    cases hrefused

end HearingSync.Clients
