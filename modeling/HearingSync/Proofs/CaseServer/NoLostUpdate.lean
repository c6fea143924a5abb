import HearingSync.Proofs.CaseServer.Traffic
/-!
What comes of calls of the case store that go on at the same time. Main statement: no event that was
taken is lost, and each call's result accounts for its own. A run follows in which a transaction
overtakes a call that reads and submits.
-/

namespace HearingSync.Traffic

variable {ι : Type} [DecidableEq ι] {calls : ι → RemoteCall} {route : Request → Option Endpoint}
  {start : Registry} {σ : Traffic ι}

/-- Whatever the order of the requests, each event that a call had taken is what its question had
for exactly the snapshot that the event went on top of, which is the one that all events before it
lead to. A call that returned a snapshot had one event taken, which installed that snapshot and
which is what its question had when it was asked last; a call that returned anything else had none.
The server has what all events that were taken lead to. -/
theorem no_update_lost (hstart : start.Sound)
    (hroute : ∀ i, (calls i).client.Routed route (calls i).caseId)
    (hσ : Execution route (initial calls start) σ) :
    (∀ before i e after, σ.history = before ++ (some i, e) :: after →
      (start.get? e.caseId).map (replayEvents e.caseId before) = some e.before ∧
      ∃ asked, (calls i).Computes asked e) ∧
    (∀ i result asked, σ.program i = .done (result, asked) →
      (takenBy i σ.history).map Accepted.installed = result.toOption.join.toList ∧
      ∀ e ∈ takenBy i σ.history, (calls i).Computes asked e) ∧
    (∀ i, (takenBy i σ.history).length ≤ 1) ∧
    (∀ id, σ.registry.get? id = (start.get? id).map (replayEvents id σ.history)) ∧
    ∀ id a b, start.get? id = some a → σ.registry.get? id = some b →
      b.version = a.version + (σ.history.filter fun taken => taken.2.caseId = id).length := by
  have h : Invariant calls route start σ :=
    execution_preserves_invariant hσ (initial_invariant hstart hroute)
  refine ⟨?_, ?_, ?_, h.replayed, ?_⟩
  · intro before i e after hsplit
    exact ⟨h.chained before (some i) e after hsplit, h.computed i e (by simp [hsplit])⟩
  · intro i result asked hi
    obtain ⟨own, howned, hensures⟩ := h.accounted i
    rw [hi] at hensures
    obtain ⟨hresult, hcomputes⟩ := Exchange.ensures_done.mp hensures
    rw [howned]
    cases own with
    | none => exact ⟨congrArg Option.toList hresult, by simp⟩
    | some e =>
      refine ⟨congrArg Option.toList hresult, ?_⟩
      intro f hf
      obtain rfl := List.mem_singleton.mp hf
      exact hcomputes f rfl
  · intro i
    obtain ⟨own, howned, -⟩ := h.accounted i
    rw [howned]
    cases own with
    | none => exact Nat.zero_le 1
    | some a => exact Nat.le_refl 1
  · intro id a b ha hb
    have hreplayed := h.replayed id
    rw [ha, hb] at hreplayed
    rw [Option.some.inj hreplayed]
    exact foldl_commit_version _ a

def Asks {α : Type} (x : Exchange α) (request : Request) (reply : Reply) (rest : Exchange α) :
    Prop :=
  ∃ next, x = .send request next ∧ next reply = rest

theorem Asks.bind {α β : Type} {x : Exchange α} {request : Request} {reply : Reply} {a : α}
    (h : Asks x request reply (.done a)) {f : α → Exchange β} {rest : Exchange β}
    (hf : f a = rest) : Asks (x >>= f) request reply rest := by
  obtain ⟨next, rfl, hnext⟩ := h
  refine ⟨fun r => next r >>= f, rfl, ?_⟩
  simp only [hnext, Exchange.done_bind, hf]

theorem Asks.step {i : ι} {request : Request} {reply : Reply}
    {rest : Exchange RemoteCall.Ended} {taken : Option Accepted} {registry : Registry}
    (h : Asks (σ.program i) request reply rest)
    (ha : σ.registry.Answers route request reply taken registry) :
    Step route σ (σ.answered i rest taken registry) := by
  obtain ⟨next, hi, rfl⟩ := h
  exact .request hi ha

def heardCase : CaseData := { caseId := ⟨"17", by decide, by decide⟩, state := .hearing }

def heardFirst : CaseSnapshot := ⟨heardCase, 1⟩

def readyCase : CaseUpdate where
  data := { heardCase with state := .readyToList }
  event := ⟨.updateCaseOnly, "", ""⟩

def serverUrl (segments : List String) : Url where
  scheme := "http"
  authority := some { host := .name "ccd", port := none }
  path := .rooted segments
  query := none
  fragment := none

def plainClient : Client where
  base := serverUrl [""]
  headers := []
  maxRetries := 0
  hasRuntime := true

def plainRequest (method : Method) (segments : List String) (body : Option Json) : Request where
  method := method
  url := serverUrl segments
  headers := []
  body := body

def plainRoute (request : Request) : Option Endpoint :=
  match request.method, request.url.path with
  | .get, .rooted ["cases", "17"] => some (.case heardCase.caseId)
  | .get, .rooted ["cases", "17", "event-token"] => some (.token heardCase.caseId)
  | .post, .rooted ["cases", "17", "events"] => some (.events heardCase.caseId)
  | _, _ => none

theorem plainClient_request {path : String} {segments : List String} (method : Method)
    (body : Option Json)
    (hparse : (Url.parse (Url.join (serverUrl [""]) path)).toOption = some (serverUrl segments))
    (hlogin : Client.loginOf? (serverUrl segments) = none)
    (hsend : Client.isSendable (serverUrl segments) = true) :
    plainClient.request method path body = .ok (plainRequest method segments body) := by
  have haddressed : Client.addressed (serverUrl segments) plainClient.headers =
      (serverUrl segments, []) := by
    unfold Client.addressed
    rw [hlogin]
    rfl
  cases hp : Url.parse (Url.join (serverUrl [""]) path) with
  | error e => rw [hp] at hparse; cases hparse
  | ok named =>
    rw [hp] at hparse
    obtain rfl := Option.some.inj hparse
    rw [Client.request_of_parse (c := plainClient) hp, haddressed, if_pos hsend]
    rfl

theorem request_case : plainClient.request .get ("cases/" ++ heardCase.caseId.text) none =
    .ok (plainRequest .get ["cases", "17"] none) :=
  plainClient_request .get none (by decide +kernel) (by decide +kernel) (by decide +kernel)

theorem request_token :
    plainClient.request .get ("cases/" ++ heardCase.caseId.text ++ "/event-token") none =
      .ok (plainRequest .get ["cases", "17", "event-token"] none) :=
  plainClient_request .get none (by decide +kernel) (by decide +kernel) (by decide +kernel)

theorem request_events (body : Option Json) :
    plainClient.request .post ("cases/" ++ heardCase.caseId.text ++ "/events") body =
      .ok (plainRequest .post ["cases", "17", "events"] body) :=
  plainClient_request .post body (by decide +kernel) (by decide +kernel) (by decide +kernel)

theorem plainClient_routed : plainClient.Routed plainRoute heardCase.caseId where
  case := fun request h => by cases request_case.symm.trans h; rfl
  token := fun request h => by cases request_token.symm.trans h; rfl
  events := fun body request h => by cases (request_events (some body)).symm.trans h; rfl

theorem sendOnce_asks {method : Method} {path : String} {body : Option Json} {request : Request}
    (h : plainClient.request method path body = .ok request) (r : Response) :
    Asks (plainClient.sendOnce method path body) request (.response r) (.done (.ok r)) := by
  unfold Client.sendOnce
  simp only [h]
  exact ⟨_, rfl, rfl⟩

theorem get_asks {α : Type} {path : String} {request : Request} {decode : Decoder α}
    (h : plainClient.request .get path none = .ok request) {body : String} {a : α}
    (ha : Json.decodeText decode body = .ok a) :
    Asks (CaseServer.get plainClient heardCase.caseId path decode) request
      (.response ⟨200, body⟩) (.done (.ok a)) := by
  have hs : plainClient.send .get path none = plainClient.sendOnce .get path none := by
    rw [Client.send, show plainClient.maxRetries = 0 from rfl, Client.retry]
  unfold CaseServer.get
  rw [hs]
  refine (sendOnce_asks h ⟨200, body⟩).bind ?_
  rw [CaseServer.read_of_success (r := ⟨200, body⟩) rfl ha]
  rfl

theorem postEvent_asks {submission : Submission} {r : Response}
    {answer : Except StoreError CaseSnapshot}
    (ha : CaseServer.read heardCase.caseId
      ("POST /" ++ ("cases/" ++ heardCase.caseId.text ++ "/events")) 1 CaseSnapshot.decode (.ok r) =
        answer) :
    Asks (CaseServer.postEvent plainClient heardCase.caseId 1 submission readyCase)
      (plainRequest .post ["cases", "17", "events"]
        (some (CaseServer.eventBody readyCase submission)))
      (.response r) (.done answer) := by
  unfold CaseServer.postEvent
  have hask := sendOnce_asks (request_events (some (CaseServer.eventBody readyCase submission))) r
  refine hask.bind ?_
  rw [ha]
  rfl

def readyCall (byTransaction : Bool) : RemoteCall where
  client := plainClient
  strategy := if byTransaction then .callback else .readModifyWrite
  caseId := heardCase.caseId
  question := fun _ a => if a.data = heardCase then some readyCase else none
  keepsCase := by
    intro earlier a update h
    by_cases ha : a.data = heardCase
    · rw [if_pos ha] at h
      rw [← Option.some.inj h, ha]
      rfl
    · rw [if_neg ha] at h
      cases h

theorem readyCall_question (byTransaction : Bool) (earlier : List CaseSnapshot) :
    (readyCall byTransaction).question earlier heardFirst = some readyCase := by rfl

def submitting : Exchange RemoteCall.Ended :=
  (fun submitted => (submitted.map some, [heardFirst])) <$>
    CaseServer.submit plainClient heardFirst readyCase

def firstBody : String :=
  "\x7b\"data\":\x7b\"caseId\":\"17\",\"state\":\"hearing\"\x7d,\"version\":1\x7d"

theorem firstBody_decodes : Json.decodeText CaseSnapshot.decode firstBody = .ok heardFirst := by rfl

theorem readyCall_reads : Asks (readyCall false).program (plainRequest .get ["cases", "17"] none)
    (.response ⟨200, firstBody⟩) submitting := by
  rw [RemoteCall.program_of_readModifyWrite rfl]
  have hfetch : CaseServer.fetch plainClient heardCase.caseId = CaseServer.get plainClient
      heardCase.caseId ("cases/" ++ heardCase.caseId.text) CaseSnapshot.decode := if_pos rfl
  have hget := get_asks request_case firstBody_decodes
  rw [← hfetch] at hget
  refine hget.bind ?_
  simp only [readyCall_question]
  rfl

theorem submitting_asks : Asks submitting
    (plainRequest .post ["cases", "17", "events"]
      (some (CaseServer.eventBody readyCase (.version 1))))
    (.response ⟨409, ""⟩) (.done (.error (.conflict heardCase.caseId 1), [heardFirst])) :=
  (postEvent_asks rfl).bind rfl

def settled : CaseServer.Attempt → Except StoreError (Option CaseSnapshot)
  | .ended answer => answer
  | .stale e => .error e

def posting : Exchange RemoteCall.Ended :=
  (fun posted => (settled (CaseServer.Attempt.ofPost posted), [heardFirst])) <$>
    CaseServer.postEvent plainClient heardCase.caseId 1 (.token "t") readyCase

theorem readyCall_transact : (readyCall true).program =
    (fun p => (settled p.1, p.2)) <$>
      (CaseServer.attempt plainClient heardCase.caseId (readyCall true).ask).run [] := by
  rw [RemoteCall.program_of_callback rfl]
  unfold CaseServer.transact
  rw [if_pos (show (readyCall true).client.hasRuntime = true from rfl),
    show (readyCall true).client.maxRetries = 0 from rfl]
  unfold CaseServer.attempts
  rw [StateT.run_bind, ← bind_pure_comp]
  refine bind_congr (m := Exchange) fun p => ?_
  obtain ⟨attempted, seen⟩ := p
  cases attempted <;> rfl

def tokenBody : String := "\x7b\"token\":\"t\",\"case\":" ++ firstBody ++ "\x7d"

theorem tokenBody_decodes :
    Json.decodeText IssuedToken.record.decode tokenBody = .ok ⟨"t", heardFirst⟩ := by rfl

theorem readyCall_asks : Asks (readyCall true).program
    (plainRequest .get ["cases", "17", "event-token"] none)
    (.response ⟨200, tokenBody⟩) posting := by
  have hattempt := (readyCall true).run_attempt []
  rw [readyCall_transact]
  rw [show (readyCall true).client = plainClient from rfl,
    show (readyCall true).caseId = heardCase.caseId from rfl] at hattempt
  rw [hattempt, map_bind]
  refine Asks.bind (get_asks request_token tokenBody_decodes) ?_
  simp only [readyCall_question, Functor.map_map]
  rfl

def secondBody : String :=
  "\x7b\"data\":\x7b\"caseId\":\"17\",\"state\":\"readyToList\"\x7d,\"version\":2\x7d"

theorem secondBody_decodes :
    Json.decodeText CaseSnapshot.decode secondBody = .ok (heardFirst.commit readyCase) := by rfl

theorem posting_asks : Asks posting
    (plainRequest .post ["cases", "17", "events"]
      (some (CaseServer.eventBody readyCase (.token "t"))))
    (.response ⟨200, secondBody⟩)
    (.done (.ok (some (heardFirst.commit readyCase)), [heardFirst])) :=
  (postEvent_asks
    (CaseServer.read_of_success (r := ⟨200, secondBody⟩) rfl secondBody_decodes)).bind rfl

def heardStart : Registry := { cases := [(heardCase.caseId, heardFirst)] }

theorem heardStart_sound : heardStart.Sound where
  underOwnIds := Filing.UnderOwnIds.put Filing.underOwnIds_nil rfl
  onePerToken := fun _ _ _ h => nomatch h

def readyTaken : Accepted := ⟨heardCase.caseId, heardFirst, readyCase⟩

def afterRead : Traffic Bool :=
  (initial readyCall heardStart).answered false submitting none heardStart

def afterReads : Traffic Bool :=
  afterRead.answered true posting none (heardStart.issue "t" heardCase.caseId 1)

def afterEvent : Traffic Bool :=
  afterReads.answered true (.done (.ok (some readyTaken.installed), [heardFirst]))
    (some readyTaken) (afterReads.registry.install readyTaken)

def afterEvents : Traffic Bool :=
  afterEvent.answered false (.done (.error (.conflict heardCase.caseId 1), [heardFirst])) none
    afterEvent.registry

theorem afterEvents_execution :
    Execution plainRoute (initial readyCall heardStart) afterEvents := by
  have hread : Step plainRoute (initial readyCall heardStart) afterRead :=
    Asks.step (i := false) readyCall_reads (.case rfl rfl rfl firstBody_decodes)
  have htoken : Step plainRoute afterRead afterReads :=
    Asks.step (i := true) readyCall_asks (.token (a := heardFirst) (r := ⟨200, tokenBody⟩)
      rfl rfl (fun _ => List.not_mem_nil) rfl tokenBody_decodes)
  have hevent : Step plainRoute afterReads afterEvent :=
    Asks.step (i := true) posting_asks
      (.accept rfl rfl rfl List.mem_cons_self rfl secondBody_decodes)
  have hstale : Step plainRoute afterEvent afterEvents :=
    Asks.step (i := false) submitting_asks
      (.stale rfl rfl rfl fun h => absurd (show 1 = 2 from h) (by decide))
  exact .cons hread (.cons htoken (.cons hevent (.cons hstale .nil)))

theorem no_update_lost_afterEvents :
    heardStart.Sound ∧
    (∀ i, (readyCall i).client.Routed plainRoute (readyCall i).caseId) ∧
    Execution plainRoute (initial readyCall heardStart) afterEvents ∧
    (takenBy true afterEvents.history).map Accepted.installed = [readyTaken.installed] ∧
    (readyCall true).Computes [heardFirst] readyTaken ∧
    (takenBy false afterEvents.history).map Accepted.installed = [] ∧
    afterEvents.registry.get? heardCase.caseId =
      some (replayEvents heardCase.caseId afterEvents.history heardFirst) := by
  have hroute (i : Bool) : (readyCall i).client.Routed plainRoute (readyCall i).caseId :=
    plainClient_routed
  obtain ⟨-, hresult, -, hreplayed, -⟩ :=
    no_update_lost heardStart_sound hroute afterEvents_execution
  obtain ⟨htrue, hcomputes⟩ := hresult true _ _ rfl
  obtain ⟨hfalse, -⟩ := hresult false _ _ rfl
  exact ⟨heardStart_sound, hroute, afterEvents_execution, htrue,
    hcomputes readyTaken List.mem_cons_self, hfalse, hreplayed heardCase.caseId⟩

end HearingSync.Traffic
