import HearingSync.Proofs.CaseServer.Requests
import HearingSync.Proofs.Http.Transcript
/-!
The turns of one request. Main statement: a request goes over the wire once for each time that no
response came, so many times at most, and then once more with its response.
-/

namespace HearingSync

def Turn.document? {α : Type} (t : Turn) (decode : Decoder α) : Option α :=
  match t.reply with
  | .response r => if r.isSuccess then (Json.decodeText decode r.body).toOption else none
  | .dropped => none

def Turn.isPost (t : Turn) : Bool := t.request.method == .post

def Turn.isConflict (t : Turn) : Bool :=
  match t.reply with
  | .response r => r.status == 409
  | .dropped => false

theorem Turn.document?_of_isConflict {α : Type} {t : Turn} {decode : Decoder α}
    (h : t.isConflict = true) : t.document? decode = none := by
  unfold isConflict at h
  unfold document?
  cases hr : t.reply with
  | dropped => rfl
  | response r =>
    rw [hr] at h
    have hs : r.status = 409 := by simpa using h
    simp [Response.isSuccess, hs]

namespace Client

theorem request_method {c : Client} {method : Method} {path : String} {body : Option Json}
    {request : Request} (h : c.request method path body = .ok request) :
    request.method = method := by
  cases hp : Url.parse (Url.join c.base path) with
  | error e =>
    unfold Client.request at h
    rw [hp] at h
    cases h
  | ok named =>
    rw [request_of_parse hp] at h
    split at h
    · cases h; rfl
    · cases h

/-- The turns of a request that may be sent `n` times again, and what comes of them. -/
inductive Sent (c : Client) (method : Method) (path : String) (body : Option Json) (n : Nat) :
    List Turn → Except String Response → Prop where
  | unsendable (e : RequestError) : c.request method path body = .error e →
      Sent c method path body n [] (.error e.message)
  | answered (request : Request) (k : Nat) (r : Response) :
      c.request method path body = .ok request → k ≤ n →
      Sent c method path body n
        (List.replicate k ⟨request, .dropped⟩ ++ [⟨request, .response r⟩]) (.ok r)
  | dropped (request : Request) (cause : String) : c.request method path body = .ok request →
      Sent c method path body n (List.replicate (n + 1) ⟨request, .dropped⟩) (.error cause)

variable {c : Client} {method : Method} {path : String} {body : Option Json} {n : Nat}
  {u : List Turn} {answer : Except String Response}

theorem sent_of_sendOnce (h : (c.sendOnce method path body).Yields u answer) :
    Sent c method path body 0 u answer := by
  unfold sendOnce at h
  cases hr : c.request method path body with
  | error e =>
    rw [hr] at h
    obtain ⟨rfl, rfl⟩ := Exchange.yields_done h
    exact .unsendable e hr
  | ok request =>
    rw [hr] at h
    cases h with
    | @send _ _ reply rest _ h =>
      cases reply with
      | response r =>
        obtain ⟨rfl, rfl⟩ := Exchange.yields_done h
        exact .answered request 0 r hr (Nat.le_refl 0)
      | dropped =>
        obtain ⟨rfl, rfl⟩ := Exchange.yields_done h
        exact .dropped request _ hr

/-- A first time in vain, and then the others. -/
theorem Sent.again {u v : List Turn} {cause : String}
    (hfirst : Sent c method path body 0 u (.error cause)) (h : Sent c method path body n v answer) :
    Sent c method path body (n + 1) (u ++ v) answer := by
  cases hfirst with
  | unsendable e he =>
    cases h with
    | unsendable e' he' => exact .unsendable e' he'
    | answered request k r hr hk => cases he.symm.trans hr
    | dropped request cause hr => cases he.symm.trans hr
  | dropped request cause hr =>
    cases h with
    | unsendable e he => cases he.symm.trans hr
    | answered request' k r hr' hk =>
      cases hr.symm.trans hr'
      exact .answered request (k + 1) r hr (Nat.succ_le_succ hk)
    | dropped request' cause' hr' =>
      cases hr.symm.trans hr'
      exact .dropped request cause' hr

theorem Sent.mono {k : Nat} (h : Sent c method path body n u answer) (ha : ∃ r, answer = .ok r)
    (hk : n ≤ k) : Sent c method path body k u answer := by
  obtain ⟨r, rfl⟩ := ha
  cases h with
  | answered request l _ hr hl => exact .answered request l r hr (Nat.le_trans hl hk)

theorem sent_of_retry (h : (retry (c.sendOnce method path body) n).Yields u answer) :
    Sent c method path body n u answer := by
  induction n generalizing u with
  | zero =>
    rw [retry] at h
    exact sent_of_sendOnce h
  | succ n ih =>
    rw [retry] at h
    obtain ⟨v, w, first, rfl, hfirst, hrest⟩ := Exchange.yields_bind h
    cases first with
    | ok r =>
      obtain ⟨rfl, rfl⟩ := Exchange.yields_done hrest
      rw [List.append_nil]
      exact (sent_of_sendOnce hfirst).mono ⟨r, rfl⟩ (Nat.zero_le _)
    | error cause => exact (sent_of_sendOnce hfirst).again (ih hrest)

theorem sent_of_send (h : (c.send method path body).Yields u answer) :
    Sent c method path body c.maxRetries u answer := sent_of_retry h

theorem Sent.length_le (h : Sent c method path body n u answer) : u.length ≤ n + 1 := by
  cases h with
  | unsendable e _ => exact Nat.zero_le _
  | answered request k r _ hk => simpa using hk
  | dropped request cause _ => simp

/-- All turns of a request are of that request. -/
theorem Sent.request (h : Sent c method path body n u answer) {t : Turn} (ht : t ∈ u) :
    c.request method path body = .ok t.request := by
  cases h with
  | unsendable e _ => cases ht
  | answered request k r hr _ =>
    have hrequest : t.request = request := by
      rcases List.mem_append.mp ht with ht | ht
      · rw [List.eq_of_mem_replicate ht]
      · rw [List.mem_singleton.mp ht]
    rw [hrequest, hr]
  | dropped request cause hr =>
    rw [List.eq_of_mem_replicate ht, hr]

end Client

end HearingSync
