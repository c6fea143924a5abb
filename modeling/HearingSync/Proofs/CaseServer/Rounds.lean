import HearingSync.Proofs.Http.FailedFetches
import HearingSync.Proofs.Http.Retries
import Mathlib.Algebra.Order.BigOperators.Group.List
/-!
How often a service is asked, however often the wire fails. Main statement: whoever asks a service
gets its first response, if one comes before the attempts are used up, and asks no more after it; an
event is sent once; and a transaction goes in rounds, each with the requests for one token and at
most one event.
-/

namespace HearingSync

namespace CaseServer

open Client (Sent)

/-- What goes over the wire for one token: the requests for it, what is sent by whoever says what to
write, and the event. -/
structure Round where
  token : List Turn
  asked : List Turn
  event : List Turn

namespace Round

def turns (r : Round) : List Turn := r.token ++ r.asked ++ r.event

structure IsOf {τ : Type} (c : Client) (id : CaseId)
    (question : CaseSnapshot → StateT τ Exchange (Option CaseUpdate)) (r : Round) : Prop where
  token : ∃ sent, c.Sent .get (tokenPath id) none c.maxRetries r.token sent
  asked : r.asked = [] ∨ ∃ a memory answer, ((question a).run memory).Yields r.asked answer
  event : r.event = [] ∨ ∃ update submission sent,
    c.Sent .post (eventsPath id) (some (eventBody update submission)) 0 r.event sent

end Round

section Rounds

variable {τ : Type} {c : Client} {id : CaseId}
  {question : CaseSnapshot → StateT τ Exchange (Option CaseUpdate)} {s t : τ × List Turn}

theorem round_of_attempted {attempted : Attempt} (h : Attempted c id question s attempted t) :
    ∃ r : Round, r.IsOf c id question ∧ t.2 = s.2 ++ r.turns := by
  cases h with
  | noToken e u hissue =>
    obtain ⟨sent, hsent, -⟩ := sent_of_issueToken hissue
    exact ⟨⟨u, [], []⟩, ⟨⟨sent, hsent⟩, .inl rfl, .inl rfl⟩, by simp [Round.turns, Networked.speak]⟩
  | declined issued u _ hissue hasked =>
    obtain ⟨sent, hsent, -⟩ := sent_of_issueToken hissue
    obtain ⟨v, hv, hyields⟩ := hasked
    refine ⟨⟨u, v, []⟩, ⟨⟨sent, hsent⟩, .inr ⟨_, _, _, hyields⟩, .inl rfl⟩, ?_⟩
    simp [hv, Round.turns, Networked.speak]
  | posted issued u update t v answer hissue hasked hpost =>
    obtain ⟨sent, hsent, -⟩ := sent_of_issueToken hissue
    obtain ⟨w, hw, hyields⟩ := hasked
    obtain ⟨sentEvent, hevent, -⟩ := sent_of_postEvent hpost
    refine ⟨⟨u, w, v⟩, ⟨⟨sent, hsent⟩, .inr ⟨_, _, _, hyields⟩, .inr ⟨_, _, _, hevent⟩⟩, ?_⟩
    simp [hw, Round.turns, Networked.speak]

/-- A transaction that may start again `n` times has a round more than that at most. -/
theorem rounds_of_transacted {n : Nat} {answer : Except StoreError (Option CaseSnapshot)}
    (h : Transacted c id question n s answer t) :
    ∃ rounds : List Round, rounds.length ≤ n + 1 ∧ (∀ r ∈ rounds, r.IsOf c id question) ∧
      t.2 = s.2 ++ rounds.flatMap Round.turns := by
  induction h with
  | ended n s answer t ha =>
    obtain ⟨r, hr, ht⟩ := round_of_attempted ha
    exact ⟨[r], by simp, by simpa using hr, by simpa using ht⟩
  | gaveUp s e t ha =>
    obtain ⟨r, hr, ht⟩ := round_of_attempted ha
    exact ⟨[r], by simp, by simpa using hr, by simpa using ht⟩
  | again n s e t answer u ha _ ih =>
    obtain ⟨r, hr, ht⟩ := round_of_attempted ha
    obtain ⟨rounds, hlength, hrounds, hu⟩ := ih
    refine ⟨r :: rounds, Nat.succ_le_succ hlength, ?_, ?_⟩
    · rintro q (_ | ⟨_, hq⟩)
      · exact hr
      · exact hrounds q hq
    · rw [hu, ht, List.append_assoc, List.flatMap_cons]

theorem length_flatMap_le {rounds : List Round} {part : Round → List Turn} {n m : Nat}
    (hlength : rounds.length ≤ n) (hpart : ∀ r ∈ rounds, (part r).length ≤ m) :
    (rounds.flatMap part).length ≤ n * m := by
  rw [List.length_flatMap]
  calc (rounds.map fun r => (part r).length).sum
      ≤ (rounds.map fun r => (part r).length).length • m := by
        apply List.sum_le_card_nsmul
        simpa using hpart
    _ = rounds.length * m := by simp
    _ ≤ n * m := Nat.mul_le_mul_right m hlength

theorem Round.IsOf.token_le {r : Round} (h : r.IsOf c id question) :
    r.token.length ≤ c.maxRetries + 1 := by
  obtain ⟨sent, hsent⟩ := h.token
  exact hsent.length_le

theorem Round.IsOf.event_le {r : Round} (h : r.IsOf c id question) : r.event.length ≤ 1 := by
  rcases h.event with hnone | ⟨update, submission, sent, hsent⟩
  · simp [hnone]
  · exact hsent.length_le

/-- The rounds of a transaction, and how many requests of its own it sends. -/
structure GoesInRounds (c : Client) (id : CaseId)
    (question : CaseSnapshot → StateT τ Exchange (Option CaseUpdate)) (rounds : List Round)
    (turns : List Turn) : Prop where
  few : rounds.length ≤ c.maxRetries + 1
  turns : turns = rounds.flatMap Round.turns
  round : ∀ r ∈ rounds, r.IsOf c id question
  tokens : (rounds.flatMap Round.token).length ≤ (c.maxRetries + 1) * (c.maxRetries + 1)
  events : (rounds.flatMap Round.event).length ≤ c.maxRetries + 1

theorem goesInRounds (c : Client) (id : CaseId)
    (question : CaseSnapshot → StateT τ Exchange (Option CaseUpdate)) (memory : τ)
    (replies : Stream' Reply) : ∃ rounds, GoesInRounds c id question rounds
      (((transact c id question).run memory).along replies).2 := by
  have hyields := Exchange.yields_along ((transact c id question).run memory) replies
  by_cases hrun : c.hasRuntime = true
  · have htransact : transact c id question = attempts c id question c.maxRetries := if_pos hrun
    rw [htransact] at hyields ⊢
    have hrun : Runs.Run (attempts c id question c.maxRetries) (memory, []) _ (_, _) :=
      ⟨_, rfl, hyields⟩
    obtain ⟨rounds, hlength, hrounds, hturns⟩ := rounds_of_transacted (transacted_of_run hrun)
    refine ⟨rounds, hlength, hturns, hrounds, ?_, ?_⟩
    · exact length_flatMap_le hlength fun r hr => (hrounds r hr).token_le
    · simpa using length_flatMap_le hlength fun r hr => (hrounds r hr).event_le
  · have htransact : transact c id question = return .error (noRuntime id) := if_neg hrun
    rw [htransact]
    exact ⟨[], by simp, rfl, by simp, by simp, by simp⟩

end Rounds

/-- Whatever replies there are without end, whoever asks a service sends the same request until the
first response or until the attempts are used up, and is told of the last reply. An event is sent
once. So a transaction that may start again `n` times goes in rounds, with `n + 1` times `n + 1`
requests for tokens and `n + 1` events at most. -/
theorem requests_bounded (c : Client) (replies : Stream' Reply) :
    (∃ k, LeadingDrops replies k ∧
      ∀ i : Inquiry, c.hasRuntime = true → i.RetriedBy c k replies) ∧
    (∀ (id : CaseId) (base : Nat) (submission : Submission) (update : CaseUpdate),
      PostedOnce c replies id base submission update) ∧
    ∀ (τ : Type) (id : CaseId) (question : CaseSnapshot → StateT τ Exchange (Option CaseUpdate))
      (memory : τ), ∃ rounds, GoesInRounds c id question rounds
        (((transact c id question).run memory).along replies).2 := by
  obtain ⟨k, hk⟩ := LeadingDrops.exists_of_replies replies
  refine ⟨⟨k, hk, ?_⟩, postedOnce c replies, ?_⟩
  · intro i hruntime
    exact i.retriedBy hruntime hk
  · intro τ id question memory
    exact goesInRounds c id question memory replies

section Busy

open Clients (patientClients failedHearing)
open Traffic (heardCase readyCase)

/-- The connection is lost, then the server is busy, and then nothing comes any more. -/
def busyReplies : Stream' Reply :=
  Stream'.cons .dropped (Stream'.cons (.response ⟨503, "busy"⟩) (Stream'.const .dropped))

theorem leadingDrops_busyReplies : LeadingDrops busyReplies 1 where
  dropped := by
    intro i hi
    obtain rfl : i = 0 := by simpa using Nat.cast_lt.mp hi
    rfl
  answered := by
    intro i hi
    obtain rfl : i = 1 := by exact_mod_cast hi.symm
    exact ⟨_, rfl⟩

/-- A status that promises better later is an answer like any other, and an event that was lost on
the way is not sent again. -/
theorem requests_bounded_busy :
    patientClients.hearings.hasRuntime = true ∧
    (∃ request, ((postEvent patientClients.hearings heardCase.caseId 1 (.version 1)
      readyCase).along busyReplies).2 = [⟨request, .dropped⟩]) ∧
    ∃ turns, ((Inquiry.hearing failedHearing.hearingId).program patientClients.hearings).along
        busyReplies = (Client.toldOf failedHearing.hearingId (.ok ⟨503, "busy"⟩), turns) ∧
      turns.length = 2 := by
  obtain ⟨⟨k, hk, hretried⟩, hposted, -⟩ := requests_bounded patientClients.hearings busyReplies
  obtain rfl := hk.unique leadingDrops_busyReplies
  obtain ⟨⟨answer, turns⟩, hsent, halong⟩ :=
    (hretried (.hearing failedHearing.hearingId) rfl).sent Clients.hearingRequest
      Clients.hearing_request
  obtain ⟨r, hr, rfl⟩ := hsent.answered 1 rfl le_rfl
  obtain rfl := Reply.response.inj hr
  have hevent := (hposted heardCase.caseId 1 (.version 1) readyCase).sent _
    (Traffic.request_events _)
  refine ⟨rfl, ⟨_, congrArg Prod.snd hevent⟩, turns, halong, ?_⟩
  have hcount : (turns.length : ℕ∞) = (2 : ℕ) := hsent.count
  exact Nat.cast_inj.mp hcount

end Busy

end CaseServer

end HearingSync
