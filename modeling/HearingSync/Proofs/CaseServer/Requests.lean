import HearingSync.Proofs.CaseServer.Ensures
/-!
The requests of the case store, one by one. Main statements: a read, sent again as often as it may
be, has no event taken, and what it gives was shown by the server; an event that is sent is taken on
top of the snapshot that it was computed from, and then its answer is what was installed, or it is
not taken, and then its answer is an error.
-/

namespace HearingSync

/-- The server takes the requests of a client on a case for what they are. -/
structure Client.Routed (c : Client) (route : Request → Option Endpoint) (id : CaseId) : Prop where
  case : ∀ request, c.request .get ("cases/" ++ id.text) none = .ok request →
    route request = some (.case id)
  token : ∀ request, c.request .get ("cases/" ++ id.text ++ "/event-token") none = .ok request →
    route request = some (.token id)
  events : ∀ body request, c.request .post ("cases/" ++ id.text ++ "/events") (some body) =
    .ok request → route request = some (.events id)

theorem Client.request_of_parse {c : Client} {method : Method} {path : String}
    {body : Option Json} {named : Url} (hp : Url.parse (Url.join c.base path) = .ok named) :
    c.request method path body =
      if isSendable (addressed named c.headers).1 = true then
        .ok ⟨method, (addressed named c.headers).1, (addressed named c.headers).2, body⟩
      else .error (.unsendable (addressed named c.headers).1) := by
  unfold Client.request
  rw [hp]
  rfl

theorem Client.request_body {c : Client} {method : Method} {path : String} {body : Option Json}
    {request : Request} (h : c.request method path body = .ok request) : request.body = body := by
  cases hp : Url.parse (Url.join c.base path) with
  | error e =>
    unfold Client.request at h
    rw [hp] at h
    cases h
  | ok named =>
    rw [Client.request_of_parse hp] at h
    split at h
    · cases h; rfl
    · cases h

namespace CaseServer

theorem of_read_eq_ok {α : Type} {id : CaseId} {endpoint : String} {expected : Nat}
    {decode : Decoder α} {answer : Except String Response} {a : α}
    (h : read id endpoint expected decode answer = .ok a) :
    ∃ r, answer = .ok r ∧ r.isSuccess = true ∧ Json.decodeText decode r.body = .ok a := by
  unfold read at h
  cases answer with
  | error cause => cases h
  | ok r =>
    by_cases hr : r.isSuccess = true
    · simp only [hr, if_true] at h
      cases hd : Json.decodeText decode r.body with
      | error e => rw [hd] at h; cases h
      | ok b => rw [hd] at h; cases h; exact ⟨r, rfl, hr, hd⟩
    · simp only [hr] at h
      cases h

theorem read_of_success {α : Type} {id : CaseId} {endpoint : String} {expected : Nat}
    {decode : Decoder α} {r : Response} {a : α} (hr : r.isSuccess = true)
    (ha : Json.decodeText decode r.body = .ok a) :
    read id endpoint expected decode (.ok r) = .ok a := by
  simp only [read, hr, if_true, ha]

theorem toOption_read_of_failure {α : Type} {id : CaseId} {endpoint : String} {expected : Nat}
    {decode : Decoder α} {r : Response} (hr : r.isSuccess = false) :
    (read id endpoint expected decode (.ok r)).toOption = none := by
  simp [read, hr, Except.toOption]

variable {α : Type} {route : Request → Option Endpoint} {allowed : Accepted → Prop} {c : Client}
  {id : CaseId} {s : Registry} {path : String}

/-- However the request is answered, no event is taken, and a response shows what it should. -/
def IsRead (route : Request → Option Endpoint) (request : Request)
    (shows : Registry → Response → Prop) : Prop :=
  ∀ (t : Registry) (reply : Reply) (effect : Option Accepted) (u : Registry), t.Sound →
    t.Answers route request reply effect u → effect = none ∧ ∀ r, reply = .response r → shows u r

def HoldsDocument (decode : Decoder α) (holds : Registry → α → Prop) (u : Registry)
    (r : Response) : Prop :=
  r.isSuccess = true → ∀ a, Json.decodeText decode r.body = .ok a → holds u a

theorem isRead_case {request : Request} (hroute : route request = some (.case id)) :
    IsRead route request (HoldsDocument CaseSnapshot.decode (Registry.Shown id)) := by
  intro t reply effect u ht ha
  cases ha with
  | case hr hg _ hd =>
    refine ⟨rfl, ?_⟩
    rintro _ ⟨rfl⟩ _ b hb
    cases hr.symm.trans hroute
    cases hd.symm.trans hb
    exact ht.shown hg
  | token hr _ _ _ _ => cases hr.symm.trans hroute
  | accept hr _ _ _ _ _ => cases hr.symm.trans hroute
  | stale hr _ _ _ => cases hr.symm.trans hroute
  | refused hfail _ =>
    refine ⟨rfl, ?_⟩
    rintro _ ⟨rfl⟩ hsuccess
    rw [hfail] at hsuccess
    cases hsuccess
  | lost => exact ⟨rfl, nofun⟩

def HoldsToken (id : CaseId) (s : Registry) (issued : IssuedToken) : Prop :=
  Registry.Shown id s issued.snapshot ∧ (issued.token, id, issued.snapshot.version) ∈ s.issued

theorem isRead_token {request : Request} (hroute : route request = some (.token id)) :
    IsRead route request (HoldsDocument IssuedToken.record.decode (HoldsToken id)) := by
  intro t reply effect u ht ha
  cases ha with
  | case hr _ _ _ => cases hr.symm.trans hroute
  | token hr hg hf _ hd =>
    refine ⟨rfl, ?_⟩
    rintro _ ⟨rfl⟩ _ b hb
    cases hr.symm.trans hroute
    cases hd.symm.trans hb
    exact ⟨(ht.shown hg).later (Registry.precedes_issue ht hf _), List.mem_cons_self⟩
  | accept hr _ _ _ _ _ => cases hr.symm.trans hroute
  | stale hr _ _ _ => cases hr.symm.trans hroute
  | refused hfail _ =>
    refine ⟨rfl, ?_⟩
    rintro _ ⟨rfl⟩ hsuccess
    rw [hfail] at hsuccess
    cases hsuccess
  | lost => exact ⟨rfl, nofun⟩

def Reading {ε α : Type} (holds : Registry → α → Prop) (u : Registry) (own : Option Accepted)
    (answer : Except ε α) : Prop :=
  own = none ∧ ∀ a, answer = .ok a → holds u a

section Reads

variable {shows : Registry → Response → Prop}

theorem ensures_sendOnce
    (hread : ∀ request, c.request .get path none = .ok request → IsRead route request shows) :
    (c.sendOnce .get path none).Ensures route allowed (Reading shows) s none := by
  unfold Client.sendOnce
  cases hr : c.request .get path none with
  | error e => exact Exchange.ensures_done.mpr ⟨rfl, nofun⟩
  | ok request =>
    refine Exchange.ensures_send.mpr fun t hst reply u => ?_
    constructor
    · intro ha
      obtain ⟨-, hshows⟩ := hread request hr t reply none u hst.sound ha
      cases reply with
      | dropped => exact Exchange.ensures_done.mpr ⟨rfl, nofun⟩
      | response r =>
        refine Exchange.ensures_done.mpr ⟨rfl, ?_⟩
        rintro _ ⟨rfl⟩
        exact hshows r rfl
    · intro e ha
      obtain ⟨hnone, -⟩ := hread request hr t reply (some e) u hst.sound ha
      cases hnone

theorem ensures_retry {attempt : Exchange (Except String Response)}
    (h : ∀ s, attempt.Ensures route allowed (Reading shows) s none)
    (retries : Nat) :
    (Client.retry attempt retries).Ensures route allowed (Reading shows) s none := by
  induction retries generalizing s with
  | zero => exact h s
  | succ n ih =>
    refine (h s).bind ?_
    rintro t _ answer ⟨rfl, hshows⟩
    cases answer with
    | error cause => exact ih
    | ok r => exact Exchange.ensures_done.mpr ⟨rfl, hshows⟩

end Reads

theorem ensures_get {decode : Decoder α} {holds : Registry → α → Prop}
    (hread : ∀ request, c.request .get path none = .ok request →
      IsRead route request (HoldsDocument decode holds)) :
    (get c id path decode).Ensures route allowed (Reading holds) s none := by
  have hsend : (c.send .get path none).Ensures route allowed
      (Reading (HoldsDocument decode holds)) s none :=
    ensures_retry (fun s => ensures_sendOnce hread) c.maxRetries
  unfold get
  refine hsend.bind ?_
  rintro u _ answer ⟨rfl, hshows⟩
  refine Exchange.ensures_done.mpr ⟨rfl, ?_⟩
  intro a ha
  obtain ⟨r, hr, hsuccess, hd⟩ := of_read_eq_ok ha
  exact hshows r hr hsuccess a hd

theorem ensures_fetch (h : c.Routed route id) :
    (fetch c id).Ensures route allowed (Reading (Registry.Shown id)) s none := by
  unfold fetch
  by_cases hrun : c.hasRuntime = true
  · rw [if_pos hrun]
    exact ensures_get fun request hr => isRead_case (h.case request hr)
  · rw [if_neg hrun]
    refine Exchange.ensures_done.mpr ⟨rfl, ?_⟩
    intro a ha
    cases ha

theorem ensures_issueToken (h : c.Routed route id) :
    (issueToken c id).Ensures route allowed (Reading (HoldsToken id)) s none :=
  ensures_get fun request hr => isRead_token (h.token request hr)

/-- What comes of sending an event: it is taken and the answer is what it installed, or it is not
and the answer is an error. -/
def Posting (id : CaseId) (a : CaseSnapshot) (update : CaseUpdate) (own : Option Accepted)
    (answer : Except StoreError CaseSnapshot) : Prop :=
  own.map Accepted.installed = answer.toOption ∧ ∀ e, own = some e → e.Carries id a update

theorem posting_none {a : CaseSnapshot} {update : CaseUpdate}
    {answer : Except StoreError CaseSnapshot} (h : answer.toOption = none) :
    Posting id a update none answer := by
  refine ⟨h.symm, ?_⟩
  intro e he
  cases he

theorem posting_some {a : CaseSnapshot} {update : CaseUpdate} {e : Accepted}
    (h : e.Carries id a update) : Posting id a update (some e) (.ok e.installed) := by
  refine ⟨rfl, ?_⟩
  intro f hf
  rwa [← Option.some.inj hf]

/-- An event that can go on top of `a` and of no other snapshot. -/
theorem ensures_postEvent (h : c.Routed route id) {a : CaseSnapshot} {update : CaseUpdate}
    {submission : Submission} (base : Nat)
    (honly : ∀ t b, s.Precedes t → t.get? id = some b → t.Admits id b submission → b = a)
    (hallowed : ∀ e : Accepted, e.Carries id a update → allowed e) :
    (postEvent c id base submission update).Ensures route allowed
      (fun _ => Posting id a update) s none := by
  have hsend : (c.sendOnce .post ("cases/" ++ id.text ++ "/events")
      (some (eventBody update submission))).Ensures route allowed
      (fun _ own answer => Posting id a update own
        (read id ("POST /" ++ ("cases/" ++ id.text ++ "/events")) base CaseSnapshot.decode answer))
      s none := by
    unfold Client.sendOnce
    cases hr : c.request .post ("cases/" ++ id.text ++ "/events")
        (some (eventBody update submission)) with
    | error e => exact Exchange.ensures_done.mpr (posting_none rfl)
    | ok request =>
      have hroute := h.events _ request hr
      have hbody := Client.request_body hr
      refine Exchange.ensures_send.mpr fun t hst reply u => ?_
      constructor
      · intro ha
        cases ha with
        | case hr' _ _ _ => cases hr'.symm.trans hroute
        | token hr' _ _ _ _ => cases hr'.symm.trans hroute
        | stale _ _ _ _ =>
          exact Exchange.ensures_done.mpr (posting_none (toOption_read_of_failure rfl))
        | refused hfail _ =>
          exact Exchange.ensures_done.mpr (posting_none (toOption_read_of_failure hfail))
        | lost => exact Exchange.ensures_done.mpr (posting_none rfl)
      · intro e ha
        cases ha with
        | accept hr' hbody' hg hadmits hsuccess hd =>
          cases hr'.symm.trans hroute
          obtain ⟨hencode, rfl⟩ := eventBody_injective (Option.some.inj (hbody'.symm.trans hbody))
          have hcarries : Accepted.Carries ⟨id, _, _⟩ id a update :=
            ⟨rfl, honly t _ hst hg hadmits, hencode⟩
          refine ⟨rfl, hallowed _ hcarries, Exchange.ensures_done.mpr ?_⟩
          rw [read_of_success hsuccess hd]
          exact posting_some hcarries
  exact hsend.map fun _ _ _ hown => hown

end CaseServer

end HearingSync
