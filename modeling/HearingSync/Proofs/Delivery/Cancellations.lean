import HearingSync.Proofs.CaseServer.NoLostUpdate
import HearingSync.Proofs.Delivery.Handling
import HearingSync.Proofs.Http.HalfFilled
import HearingSync.Proofs.Http.Hearings
/-!
Messages about hearings that are cancelled or have failed, whatever their schedules look like. Main
statement: where the answer of the listing service is half-filled the message is committed, unless
one of the two lists of a day is null; then the answer is not read, and nothing is written.
-/

namespace HearingSync

namespace HearingDetail

variable {detail : HearingDetail}

theorem disposition_of_ended (h : detail.status = .cancelled ∨ detail.status = .exception) :
    detail.disposition = .terminalCancellation ∨ detail.disposition = .failure := by
  unfold disposition
  rcases h with h | h
  · rw [h]
    exact .inl rfl
  · rw [h]
    exact .inr rfl

end HearingDetail

namespace Delivery

variable {d : Delivery} {detail : HearingDetail}

/-- An ended hearing calls for no lookup. -/
theorem revision_of_ended
    (h : detail.disposition = .terminalCancellation ∨ detail.disposition = .failure) :
    d.revision detail = .ok (some (.withdraw detail.status.rule.hearingStatus)) := by
  unfold revision Reconcile.revision
  rcases h with h | h
  · rw [h]
    rfl
  · rw [h]
    rfl

/-- A message about an ended hearing is committed if no list of a half-filled day is null; and with
such a list the hearing is not read. -/
theorem ended_hearings_reconcile (d : Delivery) (s : MemoryStore) (a : CaseSnapshot) (c : Client)
    (r : Response) (members : List (String × Json)) (request : RequestPart)
    (days : List (List (String × Json))) (hs : s.cases.UnderOwnIds)
    (ha : s.fetch d.message.caseId = .ok a)
    (hheard : c.HeardFrom d.message.hearingId r d.fetched) (hsuccess : r.isSuccess = true)
    (hbody : Json.read? r.body = some (.object members))
    (hfilled : HearingAnswer.HalfFilled members request days)
    (hstatus : request.status = .cancelled ∨ request.status = .exception) :
    ((∀ day ∈ days, ¬ScheduledDay.ListsNull day) →
      ∃ detail event, d.fetched = .ok detail ∧ detail.status = request.status ∧
        detail.sessions.length = days.length ∧
        (d.handle s).1 = .ok (.committed detail.disposition event (a.version + 1))) ∧
    ((∃ day ∈ days, ScheduledDay.ListsNull day) →
      ∃ e, d.fetched = .error e ∧ (ReconcileError.fetch d.message.hearingId e).isRetryable = true ∧
        d.handle s = (.error (.fetch d.message.hearingId e), s)) := by
  have htext : Json.decodeText HearingAnswer.decode r.body =
      HearingAnswer.decode (.object members) := Json.decodeText_of_read hbody HearingAnswer.decode
  constructor
  · intro hlists
    obtain ⟨answer, hanswer, hrequest, hlength⟩ :=
      hfilled.decodes hlists (Json.readDocument_of_read hbody).2
    have hfetched : d.fetched = .ok (answer.detail d.message.hearingId) :=
      hheard.eq_heard.trans (Client.heard_of_decoded hsuccess (htext.trans hanswer))
    have hsame : (answer.detail d.message.hearingId).status = request.status :=
      congrArg RequestPart.status hrequest
    have hended := HearingDetail.disposition_of_ended (hsame.symm ▸ hstatus)
    have hchange := change?_eq_some_iff.mpr ⟨hfetched, revision_of_ended hended⟩
    obtain ⟨update, -, hhandle⟩ := handle_of_change hs hchange ha
    refine ⟨_, update.event.type, hfetched, hsame, ?_, ?_⟩
    · exact (List.length_map _).trans hlength
    · rw [hhandle]
  · intro hlists
    have hunread : ∀ answer, Json.decodeText HearingAnswer.decode r.body ≠ .ok answer :=
      fun answer h => hfilled.not_decodes hlists answer (htext.symm.trans h)
    have hfetched := hheard.eq_heard.trans (Client.heard_of_undecoded hsuccess hunread)
    exact ⟨_, hfetched, rfl, handle_of_unfetched hs hfetched⟩

section Withdrawal

/-- A day of which next to nothing is known. -/
def vagueDay : List (String × Json) :=
  [("hearingVenueEpimsId", .null), ("panelMemberIds", .array [.string " "]),
    ("attendees", .array [.object []])]

def nullPanelDay : List (String × Json) := [("panelMemberIds", .null)]

def withdrawnRequest : RequestPart where
  hearingId := none
  status := .cancelled
  reasons := [.withdrawn]

def withdrawnMembers (days : List (List (String × Json))) : List (String × Json) :=
  [("requestDetails", .object
      [("status", .string "CANCELLED"), ("cancellationReasonCodes", .array [.string "withdraw"])]),
    ("hearingResponse", .object [("hearingDaySchedule", .array (days.map .object))])]

theorem vagueDay_halfFilled : ScheduledDay.HalfFilled vagueDay where
  tidy := .of_nodup (by simp [vagueDay]) (by decide)
  start := by rintro j ⟨⟩
  finish := by rintro j ⟨⟩
  venue := by
    rintro j ⟨⟩
    exact .inl rfl
  judge := by rintro j ⟨⟩
  panelMembers := by
    rintro j ⟨⟩
    exact .inr ⟨_, rfl, by simp [Json.IsText]⟩
  attendees := by
    rintro j ⟨⟩
    refine .inr ⟨_, rfl, ?_⟩
    intro j hj
    obtain rfl := List.mem_singleton.mp hj
    exact ⟨[], rfl, .of_nodup (by simp) List.nodup_nil, by rintro j ⟨⟩, by rintro j ⟨⟩⟩

theorem vagueDay_lists : ¬ScheduledDay.ListsNull vagueDay := by
  rintro (h | h) <;> cases h

theorem nullPanelDay_halfFilled : ScheduledDay.HalfFilled nullPanelDay where
  tidy := .of_nodup (by simp [nullPanelDay]) (by decide)
  start := by rintro j ⟨⟩
  finish := by rintro j ⟨⟩
  venue := by rintro j ⟨⟩
  judge := by rintro j ⟨⟩
  panelMembers := by
    rintro j ⟨⟩
    exact .inl rfl
  attendees := by rintro j ⟨⟩

theorem withdrawnMembers_halfFilled {days : List (List (String × Json))}
    (h : ∀ day ∈ days, ScheduledDay.HalfFilled day) :
    HearingAnswer.HalfFilled (withdrawnMembers days) withdrawnRequest days where
  tidy := by
    have hnames : ["requestDetails", "hearingResponse"].Nodup := by decide
    exact .of_nodup (by simp [withdrawnMembers]) hnames
  request := ⟨_, rfl, by rfl⟩
  response := by
    have hname : ["hearingDaySchedule"].Nodup := by decide
    refine .inl ⟨_, rfl, ?_⟩
    exact
      { tidy := .of_nodup (by simp) hname
        listing := by rintro j ⟨⟩
        schedule := .inl rfl
        each := h }

def withdrawnTokens (days : List Json.Token) : List Json.Token :=
  [.openObject, .string (some "requestDetails"), .colon, .openObject, .string (some "status"),
    .colon, .string (some "CANCELLED"), .comma, .string (some "cancellationReasonCodes"), .colon,
    .openArray, .string (some "withdraw"), .closeArray, .closeObject, .comma,
    .string (some "hearingResponse"), .colon, .openObject, .string (some "hearingDaySchedule"),
    .colon, .openArray] ++ days ++ [.closeArray, .closeObject, .closeObject]

def withdrawnBody (days : String) : String :=
  "\x7b\"requestDetails\":\x7b\"status\":\"CANCELLED\",\"cancellationReasonCodes\":[\"withdraw\"]"
    ++ "\x7d,\"hearingResponse\":\x7b\"hearingDaySchedule\":[" ++ days ++ "]\x7d\x7d"

def vagueBody : String :=
  withdrawnBody ("\x7b\"hearingVenueEpimsId\":null,\"panelMemberIds\":[\" \"]," ++
    "\"attendees\":[\x7b\x7d]\x7d")

def nullPanelBody : String := withdrawnBody "\x7b\"panelMemberIds\":null\x7d"

theorem vagueBody_read : Json.read? vagueBody = some (.object (withdrawnMembers [vagueDay])) := by
  have htokens : Json.tokens vagueBody = withdrawnTokens
      [.openObject, .string (some "hearingVenueEpimsId"), .colon, .null, .comma,
        .string (some "panelMemberIds"), .colon, .openArray, .string (some " "), .closeArray,
        .comma, .string (some "attendees"), .colon, .openArray, .openObject, .closeObject,
        .closeArray, .closeObject] := by decide +kernel
  unfold Json.read? Json.readDocument
  rw [htokens]
  rfl

theorem nullPanelBody_read :
    Json.read? nullPanelBody = some (.object (withdrawnMembers [nullPanelDay])) := by
  have htokens : Json.tokens nullPanelBody = withdrawnTokens
      [.openObject, .string (some "panelMemberIds"), .colon, .null, .closeObject] := by
    decide +kernel
  unfold Json.read? Json.readDocument
  rw [htokens]
  rfl

def withdrawal (body : String) : Delivery :=
  let answered := Delivery.steady {} Rehearsal.listingMessage.caseId Rehearsal.listedHearing
    ⟨"12", "Leeds", none⟩ Rehearsal.oneVenue.now
  { answered with
    services := { answered.services with hearing := fun _ id => Client.heard id ⟨200, body⟩ } }

theorem withdrawal_fetched (body : String) : (withdrawal body).fetched =
    Client.heard (withdrawal body).message.hearingId ⟨200, body⟩ := by
  simp only [fetched, withdrawal]

theorem withdrawal_heard (body : String) : Traffic.plainClient.HeardFrom
    (withdrawal body).message.hearingId ⟨200, body⟩ (withdrawal body).fetched := by
  have hrequest : Traffic.plainClient.request .get
      ("hearing/" ++ Rehearsal.listedHearing.hearingId.text) none =
      .ok (Traffic.plainRequest .get ["hearing", "1"] none) :=
    Traffic.plainClient_request .get none (by decide +kernel) (by decide +kernel)
      (by decide +kernel)
  exact withdrawal_fetched body ▸ Client.heardFrom_of_request rfl hrequest ⟨200, body⟩

theorem ended_hearings_reconcile_vague :
    Traffic.plainClient.HeardFrom (withdrawal vagueBody).message.hearingId ⟨200, vagueBody⟩
      (withdrawal vagueBody).fetched ∧
    Json.read? vagueBody = some (.object (withdrawnMembers [vagueDay])) ∧
    HearingAnswer.HalfFilled (withdrawnMembers [vagueDay]) withdrawnRequest [vagueDay] ∧
    ∃ detail event, (withdrawal vagueBody).fetched = .ok detail ∧
      ((withdrawal vagueBody).handle MemoryStore.oneCase).1 =
        .ok (.committed detail.disposition event 2) := by
  have hheard := withdrawal_heard vagueBody
  have hfilled := withdrawnMembers_halfFilled (List.forall_mem_singleton.mpr vagueDay_halfFilled)
  obtain ⟨hcommitted, -⟩ := ended_hearings_reconcile (withdrawal vagueBody) MemoryStore.oneCase
    ⟨{ caseId := Rehearsal.listingMessage.caseId, state := .readyToList }, 1⟩ Traffic.plainClient
    ⟨200, vagueBody⟩ (withdrawnMembers [vagueDay]) withdrawnRequest [vagueDay]
    MemoryStore.oneCase_underOwnIds rfl hheard rfl vagueBody_read hfilled (.inl rfl)
  obtain ⟨detail, event, hfetched, -, -, hhandle⟩ :=
    hcommitted (List.forall_mem_singleton.mpr vagueDay_lists)
  exact ⟨hheard, vagueBody_read, hfilled, detail, event, hfetched, hhandle⟩

/-- A null list in its schedule keeps a withdrawn hearing from being recorded. -/
theorem ended_hearings_lost :
    ¬∀ (d : Delivery) (s : MemoryStore) (a : CaseSnapshot) (c : Client) (r : Response)
      (members : List (String × Json)) (request : RequestPart)
      (days : List (List (String × Json))),
      s.cases.UnderOwnIds → s.fetch d.message.caseId = .ok a →
      c.HeardFrom d.message.hearingId r d.fetched → r.isSuccess = true →
      Json.read? r.body = some (.object members) →
      HearingAnswer.HalfFilled members request days →
      (request.status = .cancelled ∨ request.status = .exception) →
      ∃ disposition event version,
        (d.handle s).1 = .ok (.committed disposition event version) := by
  intro hcommitted
  have hheard := withdrawal_heard nullPanelBody
  have hfilled :=
    withdrawnMembers_halfFilled (List.forall_mem_singleton.mpr nullPanelDay_halfFilled)
  obtain ⟨disposition, event, version, hhandle⟩ := hcommitted (withdrawal nullPanelBody)
    MemoryStore.oneCase ⟨{ caseId := Rehearsal.listingMessage.caseId, state := .readyToList }, 1⟩
    Traffic.plainClient ⟨200, nullPanelBody⟩ (withdrawnMembers [nullPanelDay]) withdrawnRequest
    [nullPanelDay] MemoryStore.oneCase_underOwnIds rfl hheard rfl nullPanelBody_read hfilled
    (.inl rfl)
  have hunread : ∀ answer,
      Json.decodeText HearingAnswer.decode nullPanelBody ≠ .ok answer := by
    intro answer h
    rw [Json.decodeText_of_read nullPanelBody_read] at h
    exact hfilled.not_decodes ⟨nullPanelDay, List.mem_singleton_self _, .inl rfl⟩ answer h
  have hfetched := (withdrawal_fetched nullPanelBody).trans (Client.heard_of_undecoded rfl hunread)
  rw [handle_of_unfetched MemoryStore.oneCase_underOwnIds hfetched] at hhandle
  cases hhandle

end Withdrawal

end Delivery

end HearingSync
