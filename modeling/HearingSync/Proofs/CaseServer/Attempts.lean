import HearingSync.Proofs.Http.Sending
/-!
How a transaction of the case store goes, whatever the server answers and whoever is asked what to
write. Main statement: it is a row of attempts of which all but the last ended with a stale token,
and each attempt is a request for a token, one question and one event.
-/

namespace HearingSync.CaseServer

open Runs (Run)

def casePath (id : CaseId) : String := "cases/" ++ id.text

def tokenPath (id : CaseId) : String := "cases/" ++ id.text ++ "/event-token"

def eventsPath (id : CaseId) : String := "cases/" ++ id.text ++ "/events"

section Read

variable {α : Type} {id l : CaseId} {endpoint : String} {expected version : Nat}
  {decode : Decoder α} {sent : Except String Response}

theorem of_failure_eq_conflict {r : Response} (h : failure id expected r = .conflict l version) :
    r.status = 409 ∧ l = id ∧ version = expected := by
  unfold failure at h
  by_cases hmissing : r.status = 404
  · rw [if_pos hmissing] at h
    cases h
  by_cases hconflict : r.status = 409
  · rw [if_neg hmissing, if_pos hconflict] at h
    cases h
    exact ⟨hconflict, rfl, rfl⟩
  rw [if_neg hmissing, if_neg hconflict] at h
  by_cases hs : r.isServerError = true
  · rw [if_pos hs] at h
    cases h
  · rw [if_neg hs] at h
    cases h

/-- A conflict is an answer of status 409. -/
theorem of_read_eq_conflict
    (h : read id endpoint expected decode sent = .error (.conflict l version)) :
    ∃ r, sent = .ok r ∧ r.status = 409 ∧ l = id ∧ version = expected := by
  unfold read at h
  cases sent with
  | error cause => cases h
  | ok r =>
    by_cases hr : r.isSuccess = true
    · simp only [hr, if_true] at h
      cases hd : Json.decodeText decode r.body with
      | error e => rw [hd] at h; cases h
      | ok a => rw [hd] at h; cases h
    · simp only [if_neg hr] at h
      exact ⟨r, rfl, of_failure_eq_conflict (Except.error.inj h)⟩

end Read

variable {c : Client} {id : CaseId} {u : List Turn}

theorem sent_of_fetch {answer : Except StoreError CaseSnapshot}
    (h : (fetch c id).Yields u answer) :
    (u = [] ∧ answer = .error (noRuntime id)) ∨
      ∃ sent, c.Sent .get (casePath id) none c.maxRetries u sent ∧
        answer = read id ("GET /" ++ casePath id) 0 CaseSnapshot.decode sent := by
  unfold fetch at h
  by_cases hrun : c.hasRuntime = true
  · rw [if_pos hrun] at h
    obtain ⟨sent, hsent, ha⟩ := Exchange.yields_return h
    exact .inr ⟨sent, Client.sent_of_send hsent, ha⟩
  · rw [if_neg hrun] at h
    exact .inl (Exchange.yields_done h)

theorem sent_of_issueToken {answer : Except StoreError IssuedToken}
    (h : (issueToken c id).Yields u answer) :
    ∃ sent, c.Sent .get (tokenPath id) none c.maxRetries u sent ∧
      answer = read id ("GET /" ++ tokenPath id) 0 IssuedToken.record.decode sent := by
  obtain ⟨sent, hsent, ha⟩ := Exchange.yields_return h
  exact ⟨sent, Client.sent_of_send hsent, ha⟩

theorem sent_of_postEvent {base : Nat} {submission : Submission} {update : CaseUpdate}
    {answer : Except StoreError CaseSnapshot}
    (h : (postEvent c id base submission update).Yields u answer) :
    ∃ sent, c.Sent .post (eventsPath id) (some (eventBody update submission)) 0 u sent ∧
      answer = read id ("POST /" ++ eventsPath id) base CaseSnapshot.decode sent := by
  obtain ⟨sent, hsent, ha⟩ := Exchange.yields_return h
  exact ⟨sent, Client.sent_of_sendOnce hsent, ha⟩

theorem Attempt.ofPost_eq_stale {answer : Except StoreError CaseSnapshot} {e : StoreError}
    (h : Attempt.ofPost answer = .stale e) :
    ∃ l version, e = .conflict l version ∧ answer = .error (.conflict l version) := by
  cases answer with
  | ok committed => cases h
  | error e' =>
    cases e' with
    | conflict l version => cases h; exact ⟨l, version, rfl, rfl⟩
    | notFound l => cases h
    | unavailable l reason => cases h
    | rejected l reason => cases h

theorem Attempt.ofPost_eq_ended {answer : Except StoreError CaseSnapshot}
    {ended : Except StoreError (Option CaseSnapshot)}
    (h : Attempt.ofPost answer = .ended ended) :
    ended = answer.map some ∧ ∀ l version, answer ≠ .error (.conflict l version) := by
  cases answer with
  | ok committed =>
    cases h
    exact ⟨rfl, fun _ _ h => by cases h⟩
  | error e =>
    cases e with
    | conflict l version => cases h
    | notFound l => cases h; exact ⟨rfl, fun _ _ h => by cases h⟩
    | unavailable l reason => cases h; exact ⟨rfl, fun _ _ h => by cases h⟩
    | rejected l reason => cases h; exact ⟨rfl, fun _ _ h => by cases h⟩

section Networked

variable {m : Type → Type} [Monad m] [MonadLiftT Exchange m] {σ : Type} [Runs m σ] [Networked m σ]

open Networked (speak)

variable (c id) (question : CaseSnapshot → m (Option CaseUpdate))

inductive Attempted (s : σ) : Attempt → σ → Prop where
  | noToken (e : StoreError) (u : List Turn) : (issueToken c id).Yields u (.error e) →
      Attempted s (.ended (.error e)) (speak m s u)
  | declined (issued : IssuedToken) (u : List Turn) (t : σ) :
      (issueToken c id).Yields u (.ok issued) →
      Run (question issued.snapshot) (speak m s u) none t → Attempted s (.ended (.ok none)) t
  | posted (issued : IssuedToken) (u : List Turn) (update : CaseUpdate) (t : σ) (v : List Turn)
      (answer : Except StoreError CaseSnapshot) : (issueToken c id).Yields u (.ok issued) →
      Run (question issued.snapshot) (speak m s u) (some update) t →
      (postEvent c id issued.snapshot.version (.token issued.token) update).Yields v answer →
      Attempted s (.ofPost answer) (speak m t v)

/-- How a transaction goes that may start again `n` times. -/
inductive Transacted : Nat → σ → Except StoreError (Option CaseSnapshot) → σ → Prop where
  | ended (n : Nat) (s : σ) (answer : Except StoreError (Option CaseSnapshot)) (t : σ) :
      Attempted c id question s (.ended answer) t → Transacted n s answer t
  | gaveUp (s : σ) (e : StoreError) (t : σ) : Attempted c id question s (.stale e) t →
      Transacted 0 s (.error e) t
  | again (n : Nat) (s : σ) (e : StoreError) (t : σ)
      (answer : Except StoreError (Option CaseSnapshot)) (u : σ) :
      Attempted c id question s (.stale e) t → Transacted n t answer u →
      Transacted (n + 1) s answer u

variable {c id question} {s t : σ}

theorem attempted_of_run {attempted : Attempt} (h : Run (attempt c id question) s attempted t) :
    Attempted c id question s attempted t := by
  obtain ⟨answer, v, hlift, hrest⟩ := Runs.of_bind h
  obtain ⟨u, rfl, hissue⟩ := Networked.of_lift hlift
  cases answer with
  | error e =>
    obtain ⟨rfl, rfl⟩ := Runs.of_pure hrest
    exact .noToken e u hissue
  | ok issued =>
    obtain ⟨decided, w, hq, hrest⟩ := Runs.of_bind hrest
    cases decided with
    | none =>
      obtain ⟨rfl, rfl⟩ := Runs.of_pure hrest
      exact .declined issued u t hissue hq
    | some update =>
      obtain ⟨posted, x, hlift, hp⟩ := Runs.of_bind hrest
      obtain ⟨v, rfl, hpost⟩ := Networked.of_lift hlift
      obtain ⟨rfl, rfl⟩ := Runs.of_pure hp
      exact .posted issued u update w v posted hissue hq hpost

theorem transacted_of_run {n : Nat} {answer : Except StoreError (Option CaseSnapshot)}
    (h : Run (attempts c id question n) s answer t) : Transacted c id question n s answer t := by
  induction n generalizing s with
  | zero =>
    rw [attempts] at h
    obtain ⟨attempted, u, ha, h⟩ := Runs.of_bind h
    cases attempted with
    | ended answer' =>
      obtain ⟨rfl, rfl⟩ := Runs.of_pure h
      exact .ended 0 s answer t (attempted_of_run ha)
    | stale e =>
      obtain ⟨rfl, rfl⟩ := Runs.of_pure h
      exact .gaveUp s e t (attempted_of_run ha)
  | succ n ih =>
    rw [attempts] at h
    obtain ⟨attempted, u, ha, h⟩ := Runs.of_bind h
    cases attempted with
    | ended answer' =>
      obtain ⟨rfl, rfl⟩ := Runs.of_pure h
      exact .ended (n + 1) s answer t (attempted_of_run ha)
    | stale e => exact .again n s e u answer t (attempted_of_run ha) (ih h)

end Networked

end HearingSync.CaseServer
