import HearingSync.Proofs.CaseServer.Acceptance
/-!
Where the events of a message go. Main statement: a transaction sends them to the case of the
message; reading, changing and submitting sends them to the case that is named in the document which
was read for it. A run follows in which the server has the document of another case.
-/

namespace HearingSync.Clients

/-- Whatever the servers answer, each event goes to the case of the message where the store is asked
for a transaction, and else to the case that the document names which was answered for it. -/
theorem events_addressed (clients : Clients) (venues : VenueTable) (now : Instant)
    (settings : Settings) (message : HearingMessage) (script : List Reply) :
    ∃ turns, (clients.process venues now settings message).transcript script = turns ∧
      ((clients.process venues now settings message).run script).2 = turns.map Turn.request ∧
      ∀ t ∈ turns, t.isEvent = true →
        match settings.strategy with
        | .callback =>
          clients.caseStore.request .post (CaseServer.eventsPath message.caseId) t.request.body =
            .ok t.request
        | .readModifyWrite => ∃ read ∈ turns, ∃ a,
          clients.caseStore.request .get (CaseServer.casePath message.caseId) none =
            .ok read.request ∧
          read.document? CaseSnapshot.decode = some a ∧
          clients.caseStore.request .post (CaseServer.eventsPath a.data.caseId) t.request.body =
            .ok t.request := by
  have hturns := messageTurns_transcript clients venues now settings message script
  refine ⟨_, rfl, (Exchange.transcript_requests _ script).symm, fun t ht he => ?_⟩
  obtain ⟨target, htarget, hrequest⟩ := hturns.addressed ht he
  cases hs : settings.strategy with
  | callback =>
    rw [hs] at htarget
    obtain rfl : target = message.caseId := htarget
    exact hrequest
  | readModifyWrite =>
    rw [hs] at htarget
    obtain ⟨read, hread, a, hget, ha, rfl⟩ := htarget
    exact ⟨read, hread, a, hget, ha, hrequest⟩

def otherBody : String :=
  "\x7b\"data\":\x7b\"caseId\":\"44\",\"state\":\"hearing\"\x7d,\"version\":4\x7d"

def otherInstalled : String :=
  "\x7b\"data\":\x7b\"caseId\":\"44\",\"state\":\"handlingError\"\x7d,\"version\":5\x7d"

/-- The server has the document of another case where it is asked for the message's. -/
def otherCase : List Reply :=
  [.response ⟨200, exceptionBody⟩, .response ⟨200, otherBody⟩, .response ⟨200, otherInstalled⟩]

theorem otherCase_posts : ((plainClients.process {} afterHearing
    { strategy := .readModifyWrite } failedHearing).transcript otherCase).any (fun t =>
      t.isEvent && t.request.url.path == .rooted ["cases", "44", "events"]) = true := by
  decide +kernel

theorem failedHearing_request (body : Option Json) :
    plainClients.caseStore.request .post (CaseServer.eventsPath failedHearing.caseId) body =
      .ok (Traffic.plainRequest .post ["cases", "43", "events"] body) :=
  Traffic.plainClient_request .post body (by decide +kernel) (by decide +kernel) (by decide +kernel)

/-- An event may go to another case than the message's. -/
theorem event_strays : ¬ ∀ (clients : Clients) (venues : VenueTable) (now : Instant)
    (settings : Settings) (message : HearingMessage) (script : List Reply),
    ∀ t ∈ (clients.process venues now settings message).transcript script, t.isEvent = true →
      clients.caseStore.request .post (CaseServer.eventsPath message.caseId) t.request.body =
        .ok t.request := by
  intro h
  obtain ⟨t, ht, hevent⟩ := List.any_eq_true.mp otherCase_posts
  obtain ⟨he, hpath⟩ := Bool.and_eq_true_iff.mp hevent
  have hrequest := h plainClients {} afterHearing { strategy := .readModifyWrite } failedHearing
    otherCase t ht he
  rw [failedHearing_request] at hrequest
  have hurl : t.request.url.path = .rooted ["cases", "43", "events"] := by
    rw [← Except.ok.inj hrequest]
    rfl
  rw [hurl] at hpath
  exact absurd hpath (by decide)

end HearingSync.Clients
