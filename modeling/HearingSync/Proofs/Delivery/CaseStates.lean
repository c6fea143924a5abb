import HearingSync.Proofs.Case.States
import HearingSync.Proofs.Delivery.Handling
import HearingSync.Proofs.Store.Serializability
import Mathlib.Logic.Relation
/-!
Messages that are written at the same time, with touches and switching off in between. A write
decides on a snapshot, and a commit replaces that very snapshot; so the state that the decision was
about is the state that is left. Main statement: a commit moves its case as the detail of its
message may, and no other step changes a document.
-/

namespace HearingSync

structure PendingWrite where
  delivery : Delivery
  detail : HearingDetail
  fetched : delivery.fetched = .ok detail
  due : detail.CallsForWrite

namespace PendingWrite

def policy (w : PendingWrite) : ExceptionPolicy := w.delivery.settings.policy

def write (w : PendingWrite) : CaseWrite where
  strategy := w.delivery.settings.strategy
  caseId := w.delivery.message.caseId
  decide := w.delivery.decision w.detail
  keepsCase := by
    intro a update h
    obtain ⟨r, -, hu⟩ := Delivery.decision_eq_some_iff.mp h
    exact Revision.update?_caseId hu

variable {w : PendingWrite} {s : MemoryStore} {a : CaseSnapshot} {update : CaseUpdate}

theorem write_of_unread (hs : s.cases.UnderOwnIds) {e : StoreError}
    (h : s.fetch w.delivery.message.caseId = .error e) :
    s.write w.write.strategy w.write.caseId w.write.mutation = (.error (.store e), s) := by
  have hwrite : s.write w.write.strategy w.write.caseId w.write.mutation =
      s.writeAtOnce w.write.caseId w.write.mutation := MemoryStore.write_eq_writeAtOnce hs _ _
  rw [hwrite, MemoryStore.writeAtOnce, show s.fetch w.write.caseId = .error e from h]
  rfl

theorem write_of_read (hs : s.cases.UnderOwnIds)
    (h : s.fetch w.delivery.message.caseId = .ok a) :
    s.write w.write.strategy w.write.caseId w.write.mutation =
      s.conclude w.delivery.message.caseId a (w.delivery.decision w.detail a) := by
  have hwrite : s.write w.write.strategy w.write.caseId w.write.mutation =
      s.writeAtOnce w.write.caseId w.write.mutation := MemoryStore.write_eq_writeAtOnce hs _ _
  rw [hwrite, MemoryStore.writeAtOnce, show s.fetch w.write.caseId = .ok a from h]
  rfl

/-- With nothing else in between, the write is all that the message does to the store. -/
theorem handle_eq_write (hs : s.cases.UnderOwnIds) :
    w.delivery.handle s =
      ((s.write w.write.strategy w.write.caseId w.write.mutation).1.map
          (WriteOutcome.outcome w.detail.disposition),
        (s.write w.write.strategy w.write.caseId w.write.mutation).2) := by
  have hends := Delivery.handle_ends (d := w.delivery) hs
  generalize w.delivery.handle s = p at hends ⊢
  obtain ⟨result, t⟩ := p
  cases hends with
  | unfetched e hf => cases w.fetched.symm.trans hf
  | notActionable detail hf hn =>
    cases w.fetched.symm.trans hf
    cases hn.symm.trans w.due.1
  | badSchedule detail e hf hl he =>
    cases w.fetched.symm.trans hf
    obtain ⟨session, hsession⟩ := w.due.2 hl
    cases hsession.symm.trans he
  | unread detail e hf _ he =>
    rw [write_of_unread hs he]
    rfl
  | failed detail a e hf _ ha he =>
    cases w.fetched.symm.trans hf
    have hdecision : w.delivery.decision w.detail a = .error e := by
      rw [Delivery.decision_eq, he]
      rfl
    rw [write_of_read hs ha, hdecision]
    rfl
  | committed detail a r update hf _ ha hr hu =>
    cases w.fetched.symm.trans hf
    rw [write_of_read hs ha, Delivery.decision_eq_some_iff.mpr ⟨r, hr, hu⟩]
    rfl

theorem moves (h : w.write.decide a = .ok (some update)) :
    w.detail.Moves w.policy a.data (a.commit update).data := by
  obtain ⟨r, hr, hu⟩ := Delivery.decision_eq_some_iff.mp h
  exact Revision.moves (Delivery.callsFor_of_revision hr) hu a

end PendingWrite

namespace System

variable {ι : Type} [DecidableEq ι] {messages : ι → PendingWrite} {seeds : List CaseData}
  {σ τ : System ι} {id : CaseId} {a : CaseSnapshot}

def Moved (messages : ι → PendingWrite) (id : CaseId) (before after : CaseData) : Prop :=
  ∃ i, (messages i).write.caseId = id ∧ (messages i).detail.Moves (messages i).policy before after

theorem commits_moves (h : Invariant (fun i => (messages i).write) seeds σ)
    (hs : Step (fun i => (messages i).write) σ τ) {i : ι} {version : Nat} {event : CaseEvent}
    (hc : Commits σ τ i version event) :
    ∃ a b, σ.store.get? (messages i).write.caseId = some a ∧
      τ.store.get? (messages i).write.caseId = some b ∧ b.version = version ∧
      (messages i).detail.Moves (messages i).policy a.data b.data := by
  obtain ⟨a, update, ha, hu, hb, hversion⟩ := commits_decision hs h hc
  exact ⟨a, a.commit update, ha, hb, hversion, PendingWrite.moves hu⟩

/-- What the document of a case may become in a step. -/
theorem step_document (h : Invariant (fun i => (messages i).write) seeds σ)
    (hs : Step (fun i => (messages i).write) σ τ) (ha : σ.store.get? id = some a) :
    ∃ b, τ.store.get? id = some b ∧ (b.data = a.data ∨
      ∃ i event, (messages i).write.caseId = id ∧ Commits σ τ i b.version event) := by
  obtain ⟨b, hb, hdata | ⟨i, update, hid, -, -, hcommits⟩⟩ := step_case hs h ha
  · exact ⟨b, hb, .inl hdata⟩
  · exact ⟨b, hb, .inr ⟨i, update.event, hid, hcommits⟩⟩

theorem execution_moved (hs : Execution (fun i => (messages i).write) σ τ)
    (h : Invariant (fun i => (messages i).write) seeds σ) (ha : σ.store.get? id = some a) :
    ∃ b, τ.store.get? id = some b ∧
      Relation.ReflTransGen (Moved messages id) a.data b.data := by
  induction hs generalizing a with
  | nil => exact ⟨a, ha, .refl⟩
  | cons hstep _ ih =>
    obtain ⟨b, hb, hab⟩ := step_document h hstep ha
    obtain ⟨c, hc, hbc⟩ := ih (step_preserves_invariant hstep h) hb
    refine ⟨c, hc, ?_⟩
    rcases hab with hsame | ⟨i, event, rfl, hcommits⟩
    · exact hsame ▸ hbc
    · obtain ⟨a', b', ha', hb', -, hmoves⟩ := commits_moves h hstep hcommits
      obtain rfl : a = a' := Option.some.inj (ha.symm.trans ha')
      obtain rfl : b = b' := Option.some.inj (hb.symm.trans hb')
      exact .head ⟨i, rfl, hmoves⟩ hbc

/-- Whatever messages are written at the same time, in whatever order of their steps: a commit moves
its case, from the very state that it replaces, as the detail of its message may, and no other step
changes a document. So the document of a case comes from the one that was filed by such moves alone,
and it keeps its id. -/
theorem case_states_safe (messages : ι → PendingWrite) {seeds : List CaseData}
    (hseeds : (seeds.map CaseData.caseId).Nodup) {σ : System ι}
    (hσ : Execution (fun i => (messages i).write) (initial seeds) σ) :
    (∀ d ∈ seeds, ∃ a, σ.store.get? d.caseId = some a ∧ a.data.caseId = d.caseId ∧
      Relation.ReflTransGen (Moved messages d.caseId) d a.data) ∧
    ∀ τ, Step (fun i => (messages i).write) σ τ →
      (∀ i version event, Commits σ τ i version event →
        ∃ a b, σ.store.get? (messages i).write.caseId = some a ∧
          τ.store.get? (messages i).write.caseId = some b ∧ b.version = version ∧
          (messages i).detail.Moves (messages i).policy a.data b.data) ∧
      ∀ id a, σ.store.get? id = some a → ∃ b, τ.store.get? id = some b ∧ (b.data = a.data ∨
        ∃ i event, (messages i).write.caseId = id ∧ Commits σ τ i b.version event) := by
  have hstart : Invariant (fun i => (messages i).write) seeds (initial seeds) :=
    initial_invariant hseeds
  have h := execution_preserves_invariant hσ hstart
  constructor
  · intro d hd
    obtain ⟨a, ha, hmoved⟩ :=
      execution_moved hσ hstart (MemoryStore.get?_foldl_insert {} hseeds hd)
    exact ⟨a, ha, h.underOwnIds _ a ha, hmoved⟩
  · intro τ hstep
    exact ⟨fun i version event hc => commits_moves h hstep hc,
      fun id a ha => step_document h hstep ha⟩

def withdrawnHearing : HearingDetail where
  hearingId := failedHearing.hearingId
  status := .cancelled
  listing := none
  reasons := [.withdrawn]
  sessions := []

/-- Two messages about one case: a failure, to be written in two steps, and the withdrawal, to be
written in one. -/
def rivals : Bool → PendingWrite
  | false =>
    { delivery := .steady { strategy := .readModifyWrite } waitingCase.caseId failedHearing
        ⟨"12", "Leeds", none⟩ silentServices.instant
      detail := failedHearing
      fetched := rfl
      due := ⟨rfl, nofun⟩ }
  | true =>
    { delivery := .steady { strategy := .callback } waitingCase.caseId withdrawnHearing
        ⟨"12", "Leeds", none⟩ silentServices.instant
      detail := withdrawnHearing
      fetched := rfl
      due := ⟨rfl, nofun⟩ }

def rivalsRead : System Bool :=
  (initial [waitingCase]).fetched false
    ((rivals false).write.fetch (initial (ι := Bool) [waitingCase]).store)

def rivalsWritten : System Bool :=
  rivalsRead.finish true ((rivals true).write.transact rivalsRead.store)

theorem case_states_safe_rivals :
    ([waitingCase].map CaseData.caseId).Nodup ∧
    Execution (fun i => (rivals i).write) (initial [waitingCase]) rivalsRead ∧
    Step (fun i => (rivals i).write) rivalsRead rivalsWritten ∧
    Commits rivalsRead rivalsWritten true 2 (withdrawnHearing.caseEvent .dormant) ∧
    ∃ b, rivalsWritten.store.get? waitingCase.caseId = some b ∧ b.version = 2 ∧
      b.data.state = .dormantAppealState := by
  have hseeds : ([waitingCase].map CaseData.caseId).Nodup := by decide
  have hread : Execution (fun i => (rivals i).write) (initial [waitingCase]) rivalsRead :=
    .cons (.fetch (i := false) rfl rfl) .nil
  have hstep : Step (fun i => (rivals i).write) rivalsRead rivalsWritten :=
    .transact (i := true) rfl rfl
  have hcommits : Commits rivalsRead rivalsWritten true 2 (withdrawnHearing.caseEvent .dormant) :=
    ⟨rfl, nofun⟩
  obtain ⟨a, b, -, hb, hversion, hmoves⟩ :=
    ((case_states_safe rivals hseeds hread).2 rivalsWritten hstep).1 true 2 _ hcommits
  refine ⟨hseeds, hread, hstep, hcommits, b, hb, hversion, hmoves.ended rfl ?_⟩
  exact ⟨.withdrawn, .head [], .inl rfl⟩

end System

end HearingSync
