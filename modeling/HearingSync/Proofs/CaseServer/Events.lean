import HearingSync.Proofs.CaseServer.Attempts
import HearingSync.Proofs.Http.Silence
/-!
The events that go over the wire for one message, whatever the servers answer. Main statements: an
event that was accepted is reported as a commit, unless the answer to it cannot be read; a
transaction sends its events to the case that was asked for, and whoever reads and submits sends
them to the case that was read.
-/

namespace HearingSync

open Runs (Run)
open Networked (wire)

namespace CaseServer

def unreadable (id : CaseId) : StoreError :=
  .unavailable id ("POST /" ++ eventsPath id ++ ": " ++ Client.unreadableBody)

/-- The events among the turns go to the case `target`, and `r` tells whether one was accepted. -/
structure EventTurns (c : Client) (target : CaseId) (u : List Turn)
    (r : Except ReconcileError WriteOutcome) : Prop where
  addressed : ∀ t ∈ u, t.isEvent = true →
    c.request .post (eventsPath target) t.request.body = .ok t.request
  accepted : ∀ t ∈ u, t.isEvent = true → t.isAccepted = true →
    (∃ b event, t.document? CaseSnapshot.decode = some b ∧
      r = .ok (.committed b.version event)) ∨
    t.document? CaseSnapshot.decode = none ∧ r = .error (.store (unreadable target))
  committed : ∀ version event, r = .ok (.committed version event) →
    ∃ t ∈ u, t.isEvent = true ∧ t.isAccepted = true ∧
      ∃ b, t.document? CaseSnapshot.decode = some b ∧ b.version = version

def InVain (c : Client) (target : CaseId) (u : List Turn) : Prop :=
  ∀ t ∈ u, t.isEvent = true →
    c.request .post (eventsPath target) t.request.body = .ok t.request ∧ t.isAccepted = false

variable {c : Client} {target id : CaseId} {u v : List Turn}
  {r : Except ReconcileError WriteOutcome}

theorem inVain_of_silent (h : ∀ t ∈ u, t.isEvent = false) : InVain c target u := by
  intro t ht he
  rw [h t ht] at he
  cases he

theorem InVain.append (hu : InVain c target u) (hv : InVain c target v) :
    InVain c target (u ++ v) :=
  List.forall_mem_append.mpr ⟨hu, hv⟩

theorem InVain.eventTurns (h : InVain c target u)
    (hr : ∀ version event, r ≠ .ok (.committed version event)) : EventTurns c target u r where
  addressed t ht he := (h t ht he).1
  accepted t ht he ha := by
    rw [(h t ht he).2] at ha
    cases ha
  committed version event hc := absurd hc (hr version event)

theorem EventTurns.after (h : EventTurns c target v r) (hu : InVain c target u) :
    EventTurns c target (u ++ v) r where
  addressed t ht he := by
    rcases List.mem_append.mp ht with ht | ht
    · exact (hu t ht he).1
    · exact h.addressed t ht he
  accepted t ht he ha := by
    rcases List.mem_append.mp ht with ht | ht
    · rw [(hu t ht he).2] at ha
      cases ha
    · exact h.accepted t ht he ha
  committed version event hr := by
    obtain ⟨t, ht, h⟩ := h.committed version event hr
    exact ⟨t, List.mem_append_right u ht, h⟩

section Post

variable {base : Nat} {submission : Submission} {update : CaseUpdate}
  {answer : Except StoreError CaseSnapshot}

def told (event : CaseEvent) (answer : Except StoreError CaseSnapshot) :
    Except ReconcileError WriteOutcome :=
  (answer.mapError .store).map fun committed => .committed committed.version event

theorem told_eq_committed {event event' : CaseEvent} {version : Nat}
    (h : told event answer = .ok (.committed version event')) :
    ∃ b, answer = .ok b ∧ b.version = version := by
  cases answer with
  | error e => cases h
  | ok b => cases h; exact ⟨b, rfl, rfl⟩

theorem read_of_unreadable {response : Response} {e : DecodeError}
    (hr : response.isSuccess = true)
    (he : Json.decodeText CaseSnapshot.decode response.body = .error e) :
    read target ("POST /" ++ eventsPath target) base CaseSnapshot.decode (.ok response) =
      .error (unreadable target) := by
  simp only [read, hr, if_true, he, unreadable]

theorem eventTurns_of_response {request : Request} {response : Response}
    (hr : c.request .post (eventsPath target) (some (eventBody update submission)) = .ok request)
    (hanswer : answer = read target ("POST /" ++ eventsPath target) base CaseSnapshot.decode
      (.ok response)) (event : CaseEvent) :
    EventTurns c target [⟨request, .response response⟩] (told event answer) where
  addressed t ht _ := by
    obtain rfl := List.mem_singleton.mp ht
    rw [Client.request_body hr]
    exact hr
  accepted t ht _ ha := by
    obtain rfl := List.mem_singleton.mp ht
    have ha : response.isSuccess = true := ha
    simp only [Turn.document?, ha, if_true]
    cases hd : Json.decodeText CaseSnapshot.decode response.body with
    | error e =>
      rw [hanswer, read_of_unreadable ha hd]
      exact .inr ⟨rfl, rfl⟩
    | ok b =>
      rw [hanswer, read_of_success ha hd]
      exact .inl ⟨b, event, rfl, rfl⟩
  committed version event' h := by
    obtain ⟨b, hb, hv⟩ := told_eq_committed h
    obtain ⟨r, hresponse, hsuccess, hb⟩ := of_read_eq_ok (hanswer.symm.trans hb)
    obtain rfl := Except.ok.inj hresponse
    refine ⟨_, List.mem_singleton_self _, Turn.isEvent_of_body hr, hsuccess, b, ?_, hv⟩
    simp [Turn.document?, hsuccess, hb, Except.toOption]

theorem told_ne_committed {cause : String}
    (hanswer : answer = read target ("POST /" ++ eventsPath target) base CaseSnapshot.decode
      (.error cause)) (event : CaseEvent) (version : Nat) (event' : CaseEvent) :
    told event answer ≠ .ok (.committed version event') := by
  intro h
  obtain ⟨b, hb, -⟩ := told_eq_committed h
  obtain ⟨r, hr, -⟩ := of_read_eq_ok (hanswer.symm.trans hb)
  cases hr

theorem eventTurns_of_post (h : (postEvent c target base submission update).Yields v answer)
    (event : CaseEvent) : EventTurns c target v (told event answer) := by
  obtain ⟨sent, hsent, hanswer⟩ := sent_of_postEvent h
  cases hsent with
  | unsendable e _ =>
    refine InVain.eventTurns (fun t ht _ => ?_) (told_ne_committed hanswer event)
    cases ht
  | dropped request cause hr =>
    refine InVain.eventTurns (fun t ht _ => ?_) (told_ne_committed hanswer event)
    obtain rfl := List.mem_singleton.mp ht
    refine ⟨?_, rfl⟩
    rw [Client.request_body hr]
    exact hr
  | answered request k response hr hk =>
    obtain rfl : k = 0 := Nat.le_zero.mp hk
    exact eventTurns_of_response hr hanswer event

/-- An event that came too late was not accepted. -/
theorem inVain_of_conflict {l : CaseId} {version : Nat}
    (h : (postEvent c target base submission update).Yields v (.error (.conflict l version))) :
    InVain c target v := by
  have hv := eventTurns_of_post h update.event
  intro t ht he
  refine ⟨hv.addressed t ht he, Bool.eq_false_iff.mpr fun ha => ?_⟩
  rcases hv.accepted t ht he ha with ⟨b, event, -, hr⟩ | ⟨-, hr⟩
  · cases hr
  · cases hr

end Post

theorem settle_error_ne_committed {e : StoreError} (last : CaseStore.LastRun) (version : Nat)
    (event : CaseEvent) : CaseStore.settle (.error e) last ≠ .ok (.committed version event) := by
  intro h
  cases last <;> cases h

theorem settle_none_ne_committed (last : CaseStore.LastRun) (version : Nat) (event : CaseEvent) :
    CaseStore.settle (.ok none) last ≠ .ok (.committed version event) := by
  intro h
  cases last with
  | error e => cases h
  | ok noted => cases noted <;> cases h

theorem settle_eq_told (event : CaseEvent) (answer : Except StoreError CaseSnapshot) :
    CaseStore.settle (answer.map some) (.ok (some event)) = told event answer := by
  cases answer <;> rfl

theorem silent_of_issueToken {answer : Except StoreError IssuedToken}
    (h : (issueToken c id).Yields u answer) : ∀ t ∈ u, t.isEvent = false := by
  obtain ⟨sent, hsent, -⟩ := sent_of_issueToken h
  exact fun t ht => Turn.isEvent_of_get (hsent.request ht)

section Transaction

abbrev Questioning := StateT CaseStore.LastRun Online

variable {mutation : Mutation Online} {s t : CaseStore.LastRun × List Note × List Turn}

theorem silent_of_runNoted (hquiet : ∀ a, Keeps (Silent Online) (mutation a).run)
    {a : CaseSnapshot} {update : Option CaseUpdate}
    (h : Run (CaseStore.runNoted mutation a) s update t) : Silent Questioning s t := by
  obtain ⟨decided, hm, -⟩ := CaseStore.run_of_runNoted h
  exact hquiet a s.2 decided t.2 hm

theorem event_of_runNoted {a : CaseSnapshot} {update : CaseUpdate}
    (h : Run (CaseStore.runNoted mutation a) s (some update) t) :
    t.1 = .ok (some update.event) := by
  obtain ⟨decided, -, hlast, hupdate⟩ := CaseStore.run_of_runNoted h
  rw [hlast]
  cases decided with
  | error e => cases hupdate
  | ok answer =>
    cases answer with
    | none => cases hupdate
    | some update' => cases hupdate; rfl

/-- An attempt has its event accepted, or it ends otherwise, or its event came too late. -/
theorem eventTurns_of_attempted (hquiet : ∀ a, Keeps (Silent Online) (mutation a).run)
    {attempted : Attempt} (h : Attempted c id (CaseStore.runNoted mutation) s attempted t) :
    ∃ u, wire Questioning t = wire Questioning s ++ u ∧
      ((∃ e, attempted = .stale e ∧ InVain c id u) ∨
        ∃ answer, attempted = .ended answer ∧
          EventTurns c id u (CaseStore.settle answer t.1)) := by
  cases h with
  | noToken e u hissue =>
    refine ⟨u, Networked.wire_speak s u, .inr ⟨_, rfl, ?_⟩⟩
    exact (inVain_of_silent (silent_of_issueToken hissue)).eventTurns (settle_error_ne_committed _)
  | declined issued u t hissue hq =>
    obtain ⟨v, hv, hsilent⟩ := silent_of_runNoted hquiet hq
    refine ⟨u ++ v, ?_, .inr ⟨_, rfl, ?_⟩⟩
    · rw [hv, Networked.wire_speak, List.append_assoc]
    · exact ((inVain_of_silent (silent_of_issueToken hissue)).append
        (inVain_of_silent hsilent)).eventTurns (settle_none_ne_committed _)
  | posted issued u update t v answer hissue hq hpost =>
    obtain ⟨w, hw, hsilent⟩ := silent_of_runNoted hquiet hq
    have hvain : InVain c id (u ++ w) :=
      (inVain_of_silent (silent_of_issueToken hissue)).append (inVain_of_silent hsilent)
    refine ⟨u ++ w ++ v, ?_, ?_⟩
    · rw [Networked.wire_speak, hw, Networked.wire_speak]
      simp only [List.append_assoc]
    · cases hof : Attempt.ofPost answer with
      | stale e =>
        obtain ⟨l, version, rfl, rfl⟩ := Attempt.ofPost_eq_stale hof
        exact .inl ⟨_, rfl, hvain.append (inVain_of_conflict hpost)⟩
      | ended ended =>
        obtain ⟨rfl, -⟩ := Attempt.ofPost_eq_ended hof
        have hlast : (Networked.speak Questioning t v).1 = .ok (some update.event) :=
          (event_of_runNoted hq : t.1 = _)
        refine .inr ⟨_, rfl, ?_⟩
        rw [hlast, settle_eq_told]
        exact (eventTurns_of_post hpost update.event).after hvain

theorem eventTurns_of_transacted (hquiet : ∀ a, Keeps (Silent Online) (mutation a).run) {n : Nat}
    {answer : Except StoreError (Option CaseSnapshot)}
    (h : Transacted c id (CaseStore.runNoted mutation) n s answer t) :
    ∃ u, wire Questioning t = wire Questioning s ++ u ∧
      EventTurns c id u (CaseStore.settle answer t.1) := by
  -- The events of the attempts before the last came too late, so they were in vain.
  induction h with
  | ended n s answer t ha =>
    obtain ⟨u, hu, ⟨e, he, -⟩ | ⟨answer', ha, hturns⟩⟩ := eventTurns_of_attempted hquiet ha
    · cases he
    · cases ha
      exact ⟨u, hu, hturns⟩
  | gaveUp s e t ha =>
    obtain ⟨u, hu, ⟨e', he, hvain⟩ | ⟨answer', ha, -⟩⟩ := eventTurns_of_attempted hquiet ha
    · exact ⟨u, hu, hvain.eventTurns (settle_error_ne_committed _)⟩
    · cases ha
  | again n s e t answer v ha _ ih =>
    obtain ⟨u, hu, ⟨e', he, hvain⟩ | ⟨answer', ha, -⟩⟩ := eventTurns_of_attempted hquiet ha
    · obtain ⟨w, hw, hturns⟩ := ih
      exact ⟨u ++ w, by rw [hw, hu, List.append_assoc], hturns.after hvain⟩
    · cases ha

end Transaction

/-- Where the events of a write go: to the case that was asked for, or to the case that the document
names which was read for it. -/
def Targets (c : Client) (strategy : WriteStrategy) (id : CaseId) (u : List Turn)
    (target : CaseId) : Prop :=
  match strategy with
  | .callback => target = id
  | .readModifyWrite => ∃ t ∈ u, ∃ a, c.request .get (casePath id) none = .ok t.request ∧
    t.document? CaseSnapshot.decode = some a ∧ target = a.data.caseId

/-- The turns of a write: there is no event among them, or they go where they should. -/
def WriteTurns (c : Client) (strategy : WriteStrategy) (id : CaseId) (u : List Turn)
    (r : Except ReconcileError WriteOutcome) : Prop :=
  (∀ t ∈ u, t.isEvent = false) ∧ (∀ version event, r ≠ .ok (.committed version event)) ∨
    ∃ target, Targets c strategy id u target ∧ EventTurns c target u r

theorem WriteTurns.after {strategy : WriteStrategy} (h : WriteTurns c strategy id v r)
    (hu : ∀ t ∈ u, t.isEvent = false) : WriteTurns c strategy id (u ++ v) r := by
  rcases h with ⟨hv, hr⟩ | ⟨target, htarget, hturns⟩
  · exact .inl ⟨List.forall_mem_append.mpr ⟨hu, hv⟩, hr⟩
  · refine .inr ⟨target, ?_, hturns.after (inVain_of_silent hu)⟩
    cases strategy with
    | callback => exact htarget
    | readModifyWrite =>
      obtain ⟨t, ht, h⟩ := htarget
      exact ⟨t, List.mem_append_right u ht, h⟩

section Write

variable {mutation : Mutation Online} {s t : List Note × List Turn}

theorem writeTurns_of_callback (hquiet : ∀ a, Keeps (Silent Online) (mutation a).run)
    (h : Run ((caseStore (m := Online) c).callback id mutation).run s r t) :
    ∃ u, wire Online t = wire Online s ++ u ∧ WriteTurns c .callback id u r := by
  obtain ⟨answer, last, ht, rfl⟩ := CaseStore.transacted_of_run h
  have ht : Run (transact (m := Questioning) c id (CaseStore.runNoted mutation)) (.ok none, s)
    answer (last, t) := ht
  unfold transact at ht
  by_cases hrun : c.hasRuntime = true
  · rw [if_pos hrun] at ht
    obtain ⟨u, hu, hturns⟩ := eventTurns_of_transacted hquiet (transacted_of_run ht)
    exact ⟨u, hu, .inr ⟨id, rfl, hturns⟩⟩
  · rw [if_neg hrun] at ht
    obtain ⟨rfl, hstate⟩ := Runs.of_pure ht
    obtain ⟨-, rfl⟩ := Prod.mk.inj hstate
    exact ⟨[], (List.append_nil _).symm,
      .inl ⟨(fun _ h => by cases h), settle_error_ne_committed _⟩⟩

theorem silent_of_fetch {answer : Except StoreError CaseSnapshot}
    (h : (fetch c id).Yields u answer) : ∀ t ∈ u, t.isEvent = false := by
  rcases sent_of_fetch h with ⟨rfl, -⟩ | ⟨sent, hsent, -⟩
  · exact fun _ h => by cases h
  · exact fun t ht => Turn.isEvent_of_get (hsent.request ht)

/-- A case that was read stands in a turn. -/
theorem turn_of_fetch {a : CaseSnapshot} (h : (fetch c id).Yields u (.ok a)) :
    ∃ t ∈ u, c.request .get (casePath id) none = .ok t.request ∧
      t.document? CaseSnapshot.decode = some a := by
  rcases sent_of_fetch h with ⟨-, ha⟩ | ⟨sent, hsent, ha⟩
  · cases ha
  obtain ⟨response, rfl, hsuccess, hdecode⟩ := of_read_eq_ok ha.symm
  cases hsent with
  | answered request k _ hr hk =>
    refine ⟨⟨request, .response response⟩, by simp, hr, ?_⟩
    simp [Turn.document?, hsuccess, hdecode, Except.toOption]

theorem eventTurns_of_submit {a : CaseSnapshot} {update : CaseUpdate}
    {answer : Except StoreError CaseSnapshot} (h : (submit c a update).Yields u answer) :
    EventTurns c a.data.caseId u (told update.event answer) := by
  unfold submit at h
  by_cases hrun : c.hasRuntime = true
  · simp only [if_pos hrun] at h
    exact eventTurns_of_post h update.event
  · simp only [if_neg hrun] at h
    obtain ⟨rfl, rfl⟩ := Exchange.yields_done h
    refine InVain.eventTurns (fun t ht _ => ?_) fun _ _ h => by cases h
    cases ht

theorem writeTurns_of_readModifyWrite (hquiet : ∀ a, Keeps (Silent Online) (mutation a).run)
    (h : Run ((caseStore (m := Online) c).readModifyWrite id mutation).run s r t) :
    ∃ u, wire Online t = wire Online s ++ u ∧ WriteTurns c .readModifyWrite id u r := by
  have hfetch {answer : Except StoreError CaseSnapshot} {v : List Note × List Turn}
      (h : Run ((caseStore (m := Online) c).fetch id).run s answer v) :
      ∃ u, wire Online v = wire Online s ++ u ∧ (fetch c id).Yields u answer := turns_of_lift h
  cases CaseStore.readAndWritten_of_run h with
  | unread e t hf =>
    obtain ⟨u, hu, hf⟩ := hfetch hf
    exact ⟨u, hu, .inl ⟨silent_of_fetch hf, fun _ _ h => by cases h⟩⟩
  | failed a v e t hf hm =>
    obtain ⟨u, hu, hf⟩ := hfetch hf
    obtain ⟨w, hw, hsilent⟩ := hquiet a v _ t hm
    refine ⟨u ++ w, by rw [hw, hu, List.append_assoc], .inl ⟨?_, fun _ _ h => by cases h⟩⟩
    exact List.forall_mem_append.mpr ⟨silent_of_fetch hf, hsilent⟩
  | declined a v t hf hm =>
    obtain ⟨u, hu, hf⟩ := hfetch hf
    obtain ⟨w, hw, hsilent⟩ := hquiet a v _ t hm
    refine ⟨u ++ w, by rw [hw, hu, List.append_assoc], .inl ⟨?_, fun _ _ h => by cases h⟩⟩
    exact List.forall_mem_append.mpr ⟨silent_of_fetch hf, hsilent⟩
  | submitted a v update w answer t hf hm hsub =>
    obtain ⟨u, hu, hf⟩ := hfetch hf
    obtain ⟨lookups, hw, hsilent⟩ := hquiet a v _ w hm
    obtain ⟨x, hx, hsub⟩ : ∃ x, wire Online t = wire Online w ++ x ∧
      (submit c a update).Yields x answer := turns_of_lift hsub
    obtain ⟨turn, hmem, hrequest, hdocument⟩ := turn_of_fetch hf
    refine ⟨u ++ lookups ++ x, by simp only [hx, hw, hu, List.append_assoc],
      .inr ⟨a.data.caseId, ⟨turn, by simp [hmem], a, hrequest, hdocument, rfl⟩, ?_⟩⟩
    exact (eventTurns_of_submit hsub).after
      ((inVain_of_silent (silent_of_fetch hf)).append (inVain_of_silent hsilent))

theorem writeTurns_of_run (hquiet : ∀ a, Keeps (Silent Online) (mutation a).run)
    {strategy : WriteStrategy}
    (h : Run ((caseStore (m := Online) c).write strategy id mutation).run s r t) :
    ∃ u, wire Online t = wire Online s ++ u ∧ WriteTurns c strategy id u r := by
  cases strategy with
  | callback => exact writeTurns_of_callback hquiet h
  | readModifyWrite => exact writeTurns_of_readModifyWrite hquiet h

end Write

end CaseServer

namespace Clients

variable (clients : Clients) (venues : VenueTable) (now : Instant) (settings : Settings)
  (message : HearingMessage)

def process : Exchange (Except ReconcileError Outcome × List Note) :=
  (HearingSync.process (clients.collaborators venues now) settings message).run.run []

/-- The turns for a message: there is no event among them and no commit is reported, or they are
those of a write to the message's case. -/
def MessageTurns (u : List Turn) (result : Except ReconcileError Outcome) : Prop :=
  (∀ t ∈ u, t.isEvent = false) ∧ (∀ d event version, result ≠ .ok (.committed d event version)) ∨
    ∃ d r, CaseServer.WriteTurns clients.caseStore settings.strategy message.caseId u r ∧
      result = r.map (WriteOutcome.outcome d)

variable {clients venues now settings message} {s t : List Note × List Turn}
  {result : Except ReconcileError Outcome}

theorem messageTurns_of_settled {detail : HearingDetail}
    (h : Reconcile.Settled
      (clients.collaborators venues now) settings message (wire Online) detail s
      result t) :
    ∃ u, wire Online t = wire Online s ++ u ∧ MessageTurns clients settings message u result := by
  cases h with
  | notActionable _ ha ht =>
    exact ⟨[], by rw [ht, List.append_nil],
      .inl ⟨(fun _ h => by cases h), fun _ _ _ h => by cases h⟩⟩
  | badSchedule e _ hl he ht =>
    exact ⟨[], by rw [ht, List.append_nil],
      .inl ⟨(fun _ h => by cases h), fun _ _ _ h => by cases h⟩⟩
  | written r v _ hd hw ht =>
    obtain ⟨u, hu, hturns⟩ := CaseServer.writeTurns_of_run
      (Reconcile.mutation_keeps settings message detail consults) hw
    exact ⟨u, ht.trans hu, .inr ⟨_, r, hturns, rfl⟩⟩

theorem messageTurns_of_process
    (h : Run (HearingSync.process (clients.collaborators venues now) settings message).run s result
      t) :
    ∃ u, wire Online t = wire Online s ++ u ∧ MessageTurns clients settings message u result := by
  cases Reconcile.handled_of_process quiet h with
  | unfetched e v _ hf ht =>
    obtain ⟨u, hu, hsilent⟩ := silent_fetched message.hearingId s _ v hf
    exact ⟨u, ht.trans hu, .inl ⟨hsilent, fun _ _ _ h => by cases h⟩⟩
  | fetched detail v w _ _ hf hw hs =>
    obtain ⟨u, hu, hsilent⟩ := silent_fetched message.hearingId s _ v hf
    obtain ⟨x, hx, hturns⟩ := messageTurns_of_settled hs
    refine ⟨u ++ x, by rw [hx, hw, hu, List.append_assoc], ?_⟩
    rcases hturns with ⟨hx, hr⟩ | ⟨d, r, hturns, hr⟩
    · exact .inl ⟨List.forall_mem_append.mpr ⟨hsilent, hx⟩, hr⟩
    · exact .inr ⟨d, r, hturns.after hsilent, hr⟩

theorem MessageTurns.accepted {u : List Turn} (h : MessageTurns clients settings message u result)
    {t : Turn} (ht : t ∈ u) (he : t.isEvent = true) (ha : t.isAccepted = true) :
    (∃ b d event, t.document? CaseSnapshot.decode = some b ∧
      result = .ok (.committed d event b.version)) ∨
    t.document? CaseSnapshot.decode = none ∧
      ∃ id, result = .error (.store (CaseServer.unreadable id)) := by
  rcases h with ⟨hsilent, -⟩ | ⟨d, r, ⟨hsilent, -⟩ | ⟨target, -, hturns⟩, rfl⟩
  · rw [hsilent t ht] at he
    cases he
  · rw [hsilent t ht] at he
    cases he
  · rcases hturns.accepted t ht he ha with ⟨b, event, hb, rfl⟩ | ⟨hnone, rfl⟩
    · exact .inl ⟨b, d, event.type, hb, rfl⟩
    · exact .inr ⟨hnone, target, rfl⟩

theorem MessageTurns.committed {u : List Turn} (h : MessageTurns clients settings message u result)
    {d : Disposition} {event : WorkflowEvent} {version : Nat}
    (hr : result = .ok (.committed d event version)) :
    ∃ t ∈ u, t.isEvent = true ∧ t.isAccepted = true ∧
      ∃ b, t.document? CaseSnapshot.decode = some b ∧ b.version = version := by
  rcases h with ⟨-, hne⟩ | ⟨d', r, hwrite, hmap⟩
  · exact absurd hr (hne d event version)
  obtain ⟨event', hcommitted⟩ : ∃ event', r = .ok (.committed version event') := by
    rw [hmap] at hr
    cases r with
    | error e => cases hr
    | ok outcome =>
      cases outcome with
      | committed version' event' => cases hr; exact ⟨event', rfl⟩
      | declined => cases hr
  rcases hwrite with ⟨-, hne⟩ | ⟨target, -, hturns⟩
  · exact absurd hcommitted (hne version event')
  · exact hturns.committed version event' hcommitted

/-- Where the events go, by the strategy. -/
theorem MessageTurns.addressed {u : List Turn} (h : MessageTurns clients settings message u result)
    {t : Turn} (ht : t ∈ u) (he : t.isEvent = true) :
    ∃ target, CaseServer.Targets clients.caseStore settings.strategy message.caseId u target ∧
      clients.caseStore.request .post (CaseServer.eventsPath target) t.request.body =
        .ok t.request := by
  rcases h with ⟨hsilent, -⟩ | ⟨d, r, ⟨hsilent, -⟩ | ⟨target, htarget, hturns⟩, -⟩
  · rw [hsilent t ht] at he
    cases he
  · rw [hsilent t ht] at he
    cases he
  · exact ⟨target, htarget, hturns.addressed t ht he⟩

variable (clients venues now settings message) in
theorem messageTurns_transcript (script : List Reply) :
    MessageTurns clients settings message
      ((process clients venues now settings message).transcript script)
      ((process clients venues now settings message).run script).1.1 := by
  have h : Run (HearingSync.process (clients.collaborators venues now) settings message).run
      ([], []) ((process clients venues now settings message).run script).1.1
      (((process clients venues now settings message).run script).1.2,
        (process clients venues now settings message).transcript script) :=
    ⟨_, rfl, Exchange.yields_transcript _ script⟩
  obtain ⟨u, hu, hturns⟩ := messageTurns_of_process h
  obtain rfl : (process clients venues now settings message).transcript script = u := hu
  exact hturns

end Clients

end HearingSync
