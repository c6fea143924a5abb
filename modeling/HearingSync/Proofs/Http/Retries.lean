import HearingSync.Proofs.CaseServer.Attempts
import HearingSync.Proofs.Http.Hearings
import HearingSync.Proofs.Http.Judicial
import HearingSync.Proofs.Http.Scripts
import Mathlib.Data.ENat.Lattice
import Mathlib.Data.Stream.Init
/-!
Requests that get one reply after another, without end. Main statements: an inquiry sends its
request once for each time that no response comes, and once more for the response, so many times at
most, and what it tells is made of the last of these replies; an event goes over the wire once.
-/

namespace HearingSync

namespace Exchange

variable {α β : Type} {replies : Stream' Reply} {a : α}

def along : Exchange α → Stream' Reply → α × List Turn
  | done a, _ => (a, [])
  | send request next, replies =>
    let (a, turns) := along (next replies.head) replies.tail
    (a, ⟨request, replies.head⟩ :: turns)

theorem along_send (request : Request) (next : Reply → Exchange α) :
    (send request next).along replies =
      (((next replies.head).along replies.tail).1,
        ⟨request, replies.head⟩ :: ((next replies.head).along replies.tail).2) := rfl

theorem yields_along (x : Exchange α) (replies : Stream' Reply) :
    x.Yields (x.along replies).2 (x.along replies).1 := by
  induction x generalizing replies with
  | done a => exact .done a
  | send request next ih => exact .send (ih replies.head replies.tail)

theorem along_return {x : Exchange α} {f : α → β} {turns : List Turn}
    (h : x.along replies = (a, turns)) :
    (do return f (← x) : Exchange β).along replies = (f a, turns) := by
  induction x generalizing replies turns with
  | done b =>
    obtain ⟨rfl, rfl⟩ := Prod.mk.inj h
    rfl
  | send request next ih =>
    rw [along_send] at h
    obtain ⟨ha, rfl⟩ := Prod.mk.inj h
    rw [send_bind, along_send, ih replies.head (Prod.ext ha rfl)]

/-- Replies without end are as good as a script that holds enough of them. -/
theorem along_of_run {x : Exchange α} {j : Nat} {requests : List Request}
    (h : x.run (replies.take j) = (a, requests)) (hj : requests.length ≤ j) :
    x.along replies = (a, List.zipWith Turn.mk requests (replies.take j)) := by
  induction x generalizing replies j requests with
  | done b =>
    obtain ⟨rfl, rfl⟩ := Prod.mk.inj h
    rfl
  | send request next ih =>
    rw [run_send] at h
    obtain ⟨ha, rfl⟩ := Prod.mk.inj h
    cases j with
    | zero => exact absurd hj (Nat.not_succ_le_zero _)
    | succ j =>
      rw [along_send, ih replies.head (Prod.ext ha rfl) (Nat.le_of_succ_le_succ hj)]
      rfl

theorem along_of_run_replicate {x : Exchange α} {j : Nat} {request : Request}
    (h : x.run (replies.take j) = (a, List.replicate j request)) :
    x.along replies = (a, (replies.take j).map (Turn.mk request)) := by
  have hrequests : List.replicate j request = (replies.take j).map fun _ => request := by
    rw [List.map_const', Stream'.length_take]
  rw [along_of_run h (List.length_replicate).le, hrequests, List.zipWith_map_left,
    List.zipWith_self]

end Exchange

/-- How many replies come before the first response; all of them, where no response comes. -/
structure LeadingDrops (replies : Stream' Reply) (k : ℕ∞) : Prop where
  dropped : ∀ i : ℕ, (i : ℕ∞) < k → replies.get i = .dropped
  answered : ∀ i : ℕ, k = i → ∃ r, replies.get i = .response r

namespace LeadingDrops

variable {replies : Stream' Reply} {k l : ℕ∞}

theorem le (hk : LeadingDrops replies k) (hl : LeadingDrops replies l) : k ≤ l := by
  by_contra hlt
  obtain ⟨i, rfl⟩ : ∃ i : ℕ, (i : ℕ∞) = l :=
    ENat.ne_top_iff_exists.mp (ne_top_of_lt (not_le.mp hlt))
  obtain ⟨r, hr⟩ := hl.answered i rfl
  have hdropped := hk.dropped i (not_le.mp hlt)
  rw [hr] at hdropped
  cases hdropped

theorem unique (hk : LeadingDrops replies k) (hl : LeadingDrops replies l) : k = l :=
  le_antisymm (hk.le hl) (hl.le hk)

theorem exists_of_replies (replies : Stream' Reply) : ∃ k, LeadingDrops replies k := by
  classical
  by_cases h : ∃ i, ∃ r, replies.get i = .response r
  · refine ⟨Nat.find h, ?_, ?_⟩
    · intro i hi
      cases hr : replies.get i with
      | dropped => rfl
      | response r => exact absurd ⟨r, hr⟩ (Nat.find_min h (Nat.cast_lt.mp hi))
    · intro i hi
      rw [← Nat.cast_inj.mp hi]
      exact Nat.find_spec h
  · refine ⟨⊤, ?_, ?_⟩
    · intro i _
      cases hr : replies.get i with
      | dropped => rfl
      | response r => exact absurd ⟨i, r, hr⟩ h
    · intro i hi
      exact absurd hi (ENat.top_ne_natCast i)

theorem take_eq (hk : LeadingDrops replies k) {j : ℕ} (hj : (j : ℕ∞) ≤ k) :
    replies.take j = List.replicate j .dropped := by
  induction j with
  | zero => rfl
  | succ j ih =>
    have hlt : (j : ℕ∞) < k := lt_of_lt_of_le (Nat.cast_lt.mpr (Nat.lt_succ_self j)) hj
    rw [Stream'.take_succ', ih hlt.le, hk.dropped j hlt, List.replicate_succ']

end LeadingDrops

namespace Client

variable {c : Client} {method : Method} {path : String} {body : Option Json} {request : Request}
  {replies : Stream' Reply} {k : ℕ∞} {n : ℕ}

/-- How a request goes that may be sent `n` times again, where `k` replies come before the first
response. -/
structure Retried (request : Request) (n : ℕ) (k : ℕ∞) (replies : Stream' Reply)
    (sent : Except String Response × List Turn) : Prop where
  count : (sent.2.length : ℕ∞) = min (k + 1) (n + 1)
  turns : sent.2 = (replies.take sent.2.length).map (Turn.mk request)
  stopped : ∀ t ∈ sent.2.dropLast, t.reply = .dropped
  answered : ∀ i : ℕ, k = i → i ≤ n → ∃ r, replies.get i = .response r ∧ sent.1 = .ok r
  gaveUp : (n : ℕ∞) < k → replies.get n = .dropped ∧ sent.1 = .error (dropCause request)

theorem stopped_of_drops (hk : LeadingDrops replies k) {j : ℕ} (hj : (j : ℕ∞) ≤ k) :
    ∀ t ∈ ((replies.take (j + 1)).map (Turn.mk request)).dropLast, t.reply = .dropped := by
  rw [← List.map_dropLast, Stream'.dropLast_take, Nat.add_sub_cancel, hk.take_eq hj]
  intro t ht
  obtain ⟨reply, hreply, rfl⟩ := List.mem_map.mp ht
  exact List.eq_of_mem_replicate hreply

theorem retried_of_answered (h : c.request method path body = .ok request) {i : ℕ}
    (hk : LeadingDrops replies i) (hi : i ≤ n) :
    Retried request n i replies ((retry (c.sendOnce method path body) n).along replies) := by
  obtain ⟨r, hr⟩ := hk.answered i rfl
  have htake : replies.take (i + 1) = List.replicate i .dropped ++ [.response r] := by
    rw [Stream'.take_succ', hk.take_eq le_rfl, hr]
  have hrun := run_retry_of_response h hi r []
  rw [← htake] at hrun
  rw [Exchange.along_of_run_replicate hrun]
  refine ⟨?_, ?_, stopped_of_drops hk le_rfl, ?_, ?_⟩
  · have hmin : min ((i : ℕ∞) + 1) (n + 1) = i + 1 := min_eq_left (by gcongr)
    rw [List.length_map, Stream'.length_take, hmin]
    rfl
  · rw [List.length_map, Stream'.length_take]
  · intro j hj _
    obtain rfl : i = j := Nat.cast_inj.mp hj
    exact ⟨r, hr, rfl⟩
  · intro hlt
    exact absurd (Nat.cast_lt.mp hlt) (not_lt.mpr hi)

theorem retried_of_gaveUp (h : c.request method path body = .ok request)
    (hk : LeadingDrops replies k) (hn : (n : ℕ∞) < k) :
    Retried request n k replies ((retry (c.sendOnce method path body) n).along replies) := by
  have hle : ((n + 1 : ℕ) : ℕ∞) ≤ k := by
    rw [Nat.cast_add, Nat.cast_one]
    exact Order.add_one_le_of_lt hn
  have hrun := run_retry_of_dropped h n []
  rw [List.append_nil, ← hk.take_eq hle] at hrun
  rw [Exchange.along_of_run_replicate hrun]
  refine ⟨?_, ?_, stopped_of_drops hk hn.le, ?_, ?_⟩
  · have hmin : min (k + 1) ((n : ℕ∞) + 1) = n + 1 := min_eq_right (by gcongr)
    rw [List.length_map, Stream'.length_take, hmin]
    rfl
  · rw [List.length_map, Stream'.length_take]
  · rintro i rfl hi
    exact absurd (Nat.cast_lt.mp hn) (not_lt.mpr hi)
  · intro _
    exact ⟨hk.dropped n hn, rfl⟩

theorem retried_of_request (h : c.request method path body = .ok request)
    (hk : LeadingDrops replies k) :
    Retried request c.maxRetries k replies ((c.send method path body).along replies) := by
  by_cases hn : (c.maxRetries : ℕ∞) < k
  · exact retried_of_gaveUp h hk hn
  · obtain ⟨i, rfl⟩ : ∃ i : ℕ, (i : ℕ∞) = k :=
      ENat.ne_top_iff_exists.mp (ne_top_of_le_ne_top (ENat.natCast_ne_top _) (not_lt.mp hn))
    exact retried_of_answered h hk (Nat.cast_le.mp (not_lt.mp hn))

theorem sendOnce_of_requestError {e : RequestError} (h : c.request method path body = .error e) :
    c.sendOnce method path body = .done (.error e.message) := by
  rw [sendOnce, h]

/-- A request that cannot be made is not sent. -/
theorem send_of_requestError {e : RequestError} (h : c.request method path body = .error e) :
    c.send method path body = .done (.error e.message) := by
  rw [send, sendOnce_of_requestError h]
  generalize c.maxRetries = n
  induction n with
  | zero => rfl
  | succ n ih => exact ih

def outcome (request : Request) : Reply → Except String Response
  | .response r => .ok r
  | .dropped => .error (dropCause request)

theorem along_sendOnce (h : c.request method path body = .ok request) :
    (c.sendOnce method path body).along replies =
      (outcome request replies.head, [⟨request, replies.head⟩]) := by
  rw [sendOnce_of_request h, Exchange.along_send]
  cases replies.head <;> rfl

theorem along_sendOnce_of_requestError {e : RequestError}
    (h : c.request method path body = .error e) :
    (c.sendOnce method path body).along replies = (.error e.message, []) := by
  rw [sendOnce_of_requestError h]
  rfl

end Client

inductive Inquiry where
  | hearing (id : HearingId)
  | case (id : CaseId)
  | token (id : CaseId)
  | judge (code : PersonalCode)
  deriving DecidableEq

namespace Inquiry

open CaseServer (casePath tokenPath)

def Answer : Inquiry → Type
  | hearing _ => Except ClientError HearingDetail
  | case _ => Except StoreError CaseSnapshot
  | token _ => Except StoreError IssuedToken
  | judge _ => Except ClientError (Option JudicialUser)

def program (c : Client) : (i : Inquiry) → Exchange i.Answer
  | hearing id => (c.hearing id).run
  | case id => CaseServer.fetch c id
  | token id => CaseServer.issueToken c id
  | judge code => (c.judge? code).run

def method : Inquiry → Method
  | judge _ => .post
  | _ => .get

def path : Inquiry → String
  | hearing id => "hearing/" ++ id.text
  | case id => casePath id
  | token id => tokenPath id
  | judge _ => Client.judgesPath

def body : Inquiry → Option Json
  | judge code => some (Client.judgesBody code)
  | _ => none

def told : (i : Inquiry) → Except String Response → i.Answer
  | hearing id => Client.toldOf id
  | case id => CaseServer.read id ("GET /" ++ casePath id) 0 CaseSnapshot.decode
  | token id => CaseServer.read id ("GET /" ++ tokenPath id) 0 IssuedToken.record.decode
  | judge code => Client.judgedOf code

variable {c : Client} {k : ℕ∞} {replies : Stream' Reply}

theorem program_eq (i : Inquiry) (h : c.hasRuntime = true) :
    i.program c = (do return i.told (← c.send i.method i.path i.body)) := by
  cases i with
  | hearing id => exact Client.run_hearing h
  | case id =>
    change CaseServer.fetch c id = _
    rw [CaseServer.fetch, if_pos h]
    rfl
  | token id => rfl
  | judge code => exact Client.run_judge h

/-- How an inquiry goes: its request is sent again and again, and what comes of it in the end is
told. No request goes over the wire where none can be made. -/
structure RetriedBy (c : Client) (k : ℕ∞) (replies : Stream' Reply) (i : Inquiry) : Prop where
  sent : ∀ request, c.request i.method i.path i.body = .ok request →
    ∃ sent, Client.Retried request c.maxRetries k replies sent ∧
      (i.program c).along replies = (i.told sent.1, sent.2)
  unsendable : ∀ e, c.request i.method i.path i.body = .error e →
    (i.program c).along replies = (i.told (.error e.message), [])

theorem retriedBy (hruntime : c.hasRuntime = true) (hk : LeadingDrops replies k) (i : Inquiry) :
    i.RetriedBy c k replies where
  sent := by
    intro request h
    refine ⟨_, Client.retried_of_request h hk, ?_⟩
    rw [program_eq i hruntime]
    exact Exchange.along_return rfl
  unsendable := by
    intro e h
    rw [program_eq i hruntime, Client.send_of_requestError h]
    rfl

end Inquiry

namespace CaseServer

open Client (outcome)

/-- How an event goes: over the wire once, and its answer is read from the first reply. -/
structure PostedOnce (c : Client) (replies : Stream' Reply) (id : CaseId) (base : Nat)
    (submission : Submission) (update : CaseUpdate) : Prop where
  sent : ∀ request,
    c.request .post (eventsPath id) (some (eventBody update submission)) = .ok request →
    (postEvent c id base submission update).along replies =
      (read id ("POST /" ++ eventsPath id) base CaseSnapshot.decode
        (outcome request replies.head), [⟨request, replies.head⟩])
  unsendable : ∀ e,
    c.request .post (eventsPath id) (some (eventBody update submission)) = .error e →
    (postEvent c id base submission update).along replies =
      (read id ("POST /" ++ eventsPath id) base CaseSnapshot.decode (.error e.message), [])

theorem postedOnce (c : Client) (replies : Stream' Reply) (id : CaseId) (base : Nat)
    (submission : Submission) (update : CaseUpdate) :
    PostedOnce c replies id base submission update where
  sent := by
    intro request h
    exact Exchange.along_return (Client.along_sendOnce h)
  unsendable := by
    intro e h
    exact Exchange.along_return (Client.along_sendOnce_of_requestError h)

end CaseServer

end HearingSync
