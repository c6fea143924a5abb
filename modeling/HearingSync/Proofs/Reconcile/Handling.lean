import HearingSync.Proofs.Runs
import HearingSync.Reconcile
/-!
The ways in which the handling of a message goes, whatever the services and the store answer. Main
statements: a message that is let in is fetched once, and only what calls for a write gets to the
store; a write reads, changes and submits, or is one transaction, and nothing besides.
-/

namespace HearingSync

open Runs (Run)

variable {m : Type → Type} [Monad m] {σ ν : Type} [Runs m σ]

def WriteOutcome.outcome (d : Disposition) : WriteOutcome → Outcome
  | .committed version event => .committed d event.type version
  | .declined => .declined d

/-- The statuses call for action, and a hearing that is to be listed has a good schedule. -/
def HearingDetail.CallsForWrite (d : HearingDetail) : Prop :=
  d.disposition.isActionable = true ∧
    (d.disposition.isListedUpdate = true → ∃ session, d.singleSession = .ok session)

def Quiet (view : σ → ν) (note : Note → m Unit) : Prop :=
  ∀ n, Keeps (fun s t => view t = view s) (note n)

namespace Reconcile

variable (c : Collaborators m) (settings : Settings) (message : HearingMessage) (view : σ → ν)

/-- What is done for a message with the detail that was fetched for it. -/
inductive Settled (detail : HearingDetail) (s : σ) :
    Except ReconcileError Outcome → σ → Prop where
  | notActionable (u : σ) : detail.disposition.isActionable = false → view u = view s →
      Settled detail s (.ok (.notActionable detail.disposition)) u
  | badSchedule (e : ScheduleError) (u : σ) : detail.disposition.isListedUpdate = true →
      detail.singleSession = .error e → view u = view s →
      Settled detail s (.error (.schedule e)) u
  | written (r : Except ReconcileError WriteOutcome) (t u : σ) : detail.CallsForWrite →
      Run (c.store.write settings.strategy message.caseId
        (mutation c settings message detail)).run s r t → view u = view t →
      Settled detail s (r.map (WriteOutcome.outcome detail.disposition)) u

inductive Handled (s : σ) : Except ReconcileError Outcome → σ → Prop where
  | unfetched (e : ClientError) (t u : σ) :
      Run (c.hearing message.hearingId).run s (.error e) t → view u = view t →
      Handled s (.error (.fetch message.hearingId e)) u
  | fetched (detail : HearingDetail) (t v : σ) (r : Except ReconcileError Outcome) (u : σ) :
      Run (c.hearing message.hearingId).run s (.ok detail) t → view v = view t →
      Settled c settings message view detail v r u → Handled s r u

variable {c settings message view} {detail : HearingDetail} {s u v : σ}
  {result : Except ReconcileError Outcome}

theorem Settled.quiet (h : Settled c settings message view detail s result u)
    (hv : view v = view u) : Settled c settings message view detail s result v := by
  cases h with
  | notActionable _ ha hu => exact .notActionable v ha (hv.trans hu)
  | badSchedule e _ hl he hu => exact .badSchedule e v hl he (hv.trans hu)
  | written r t _ hd hw hu => exact .written r t v hd hw (hv.trans hu)

theorem Handled.quiet (h : Handled c settings message view s result u) (hv : view v = view u) :
    Handled c settings message view s result v := by
  cases h with
  | unfetched e t _ hf hu => exact .unfetched e t v hf (hv.trans hu)
  | fetched detail t w _ _ hf hw hs => exact .fetched detail t w _ v hf hw (hs.quiet hv)

variable [LawfulMonad m]

theorem run_note_bind {ε α : Type} (hq : Quiet view c.note) {n : Note} {x : ExceptT ε m α}
    {r : Except ε α} (h : Run (do c.note n; x : ExceptT ε m α).run s r u) :
    ∃ t, view t = view s ∧ Run x.run t r u := by
  rcases h.of_exceptBind with ⟨e, hn, rfl⟩ | ⟨_, t, hn, hx⟩
  · obtain ⟨_, -, he⟩ := hn.of_exceptLift
    cases he
  · obtain ⟨a, hn, -⟩ := hn.of_exceptLift
    exact ⟨t, hq n s a t hn, hx⟩

theorem run_note_pure {ε α : Type} (hq : Quiet view c.note) {n : Note} {a : α} {r : Except ε α}
    (h : Run (do c.note n; return a : ExceptT ε m α).run s r u) : r = .ok a ∧ view u = view s := by
  obtain ⟨t, ht, hx⟩ := run_note_bind hq h
  obtain ⟨hr, rfl⟩ := hx.of_exceptPure
  exact ⟨hr, ht⟩

variable (c settings message) in
def writeCase (detail : HearingDetail) : ExceptT ReconcileError m Outcome := do
  match ← c.store.write settings.strategy message.caseId (mutation c settings message detail) with
  | .committed version event =>
    c.note (.log .info "case updated from hearing event")
    return .committed detail.disposition event.type version
  | .declined =>
    c.note (.log .warn "case update declined by mutation")
    return .declined detail.disposition

theorem settled_of_writeCase (hq : Quiet view c.note) (hd : detail.CallsForWrite)
    (h : Run (writeCase c settings message detail).run s result u) :
    Settled c settings message view detail s result u := by
  rcases h.of_exceptBind with ⟨e, hw, rfl⟩ | ⟨outcome, t, hw, hn⟩
  · exact .written (.error e) u u hd hw rfl
  cases outcome with
  | committed version event =>
    obtain ⟨rfl, hu⟩ := run_note_pure hq hn
    exact .written _ t u hd hw hu
  | declined =>
    obtain ⟨rfl, hu⟩ := run_note_pure hq hn
    exact .written _ t u hd hw hu

theorem settled_of_run (hq : Quiet view c.note)
    (h : Run (settle c settings message detail).run s result u) :
    Settled c settings message view detail s result u := by
  unfold settle at h
  by_cases ha : (!detail.disposition.isActionable) = true
  · rw [if_pos ha] at h
    obtain ⟨rfl, hu⟩ := run_note_pure hq h
    exact .notActionable u (by simpa using ha) hu
  rw [if_neg ha] at h
  have ha : detail.disposition.isActionable = true := by simpa using ha
  by_cases hl : detail.disposition.isListedUpdate = true
  · rw [if_pos hl] at h
    cases hs : detail.singleSession with
    | error e =>
      rw [hs] at h
      rcases h.of_exceptBind with ⟨e', hx, rfl⟩ | ⟨_, t, hx, -⟩
      · obtain ⟨he, rfl⟩ := hx.of_throw
        cases he
        exact .badSchedule e u hl hs rfl
      · cases hx.of_throw.1
    | ok session =>
      rw [hs] at h
      exact settled_of_writeCase hq ⟨ha, fun _ => ⟨session, hs⟩⟩ h
  · rw [if_neg hl] at h
    exact settled_of_writeCase hq ⟨ha, fun h => absurd h hl⟩ h

theorem handled_of_reconcile (hq : Quiet view c.note)
    (h : Run (reconcile c settings message).run s result u) :
    Handled c settings message view s result u := by
  unfold reconcile at h
  rcases h.of_exceptBind with ⟨e, hadapt, rfl⟩ | ⟨detail, t, hadapt, hs⟩
  · obtain ⟨fetched, hf, he⟩ := hadapt.of_adapt
    cases fetched with
    | error e' => cases he; exact .unfetched e' u u hf rfl
    | ok detail => cases he
  · obtain ⟨fetched, hf, hd⟩ := hadapt.of_adapt
    cases fetched with
    | error e => cases hd
    | ok detail' =>
      cases hd
      by_cases hr : detail.status ≠ message.reportedStatus
      · rw [if_pos hr] at hs
        obtain ⟨v, hv, hs⟩ := run_note_bind hq hs
        exact .fetched detail t v result u hf hv (settled_of_run hq hs)
      · rw [if_neg hr] at hs
        exact .fetched detail t t result u hf rfl (settled_of_run hq hs)

theorem handled_of_process (hq : Quiet view c.note)
    (h : Run (process c settings message).run s result u) :
    Handled c settings message view s result u := by
  obtain ⟨r, t, hr, hnoted⟩ := Runs.of_bind h
  have hr := handled_of_reconcile hq hr
  cases r with
  | ok outcome =>
    obtain ⟨a, v, hn, hp⟩ := Runs.of_bind hnoted
    obtain ⟨rfl, rfl⟩ := Runs.of_pure hp
    exact hr.quiet (hq _ t a u hn)
  | error e =>
    have hnoted : Run (do c.note (.log .warn "hearing event failed, case left unchanged")
                          c.note (.failed e.kind)
                          return .error e) t result u := hnoted
    obtain ⟨a, v, hn, hrest⟩ := Runs.of_bind hnoted
    obtain ⟨b, w, hm, hp⟩ := Runs.of_bind hrest
    obtain ⟨rfl, rfl⟩ := Runs.of_pure hp
    exact hr.quiet ((hq _ v b u hm).trans (hq _ t a v hn))

omit [LawfulMonad m] in
/-- The gate comes first, and a message that it refuses is noted and no more. -/
theorem receive_eq (c : Collaborators m) (settings : Settings) (message : HearingMessage) :
    receive c settings message =
      match settings.gate.refusal? message with
      | some reason => do
        c.note (.handled (Outcome.filtered reason).label)
        return .filtered reason
      | none => process c settings message := rfl

end Reconcile

namespace CaseStore

inductive ReadAndWritten (store : CaseStore m) (id : CaseId) (mutation : Mutation m) (s : σ) :
    Except ReconcileError WriteOutcome → σ → Prop where
  | unread (e : StoreError) (t : σ) : Run (store.fetch id).run s (.error e) t →
      ReadAndWritten store id mutation s (.error (.store e)) t
  | failed (a : CaseSnapshot) (t : σ) (e : ReconcileError) (u : σ) :
      Run (store.fetch id).run s (.ok a) t → Run (mutation a).run t (.error e) u →
      ReadAndWritten store id mutation s (.error e) u
  | declined (a : CaseSnapshot) (t u : σ) : Run (store.fetch id).run s (.ok a) t →
      Run (mutation a).run t (.ok none) u → ReadAndWritten store id mutation s (.ok .declined) u
  | submitted (a : CaseSnapshot) (t : σ) (update : CaseUpdate) (u : σ)
      (answer : Except StoreError CaseSnapshot) (v : σ) : Run (store.fetch id).run s (.ok a) t →
      Run (mutation a).run t (.ok (some update)) u → Run (store.submit a update).run u answer v →
      ReadAndWritten store id mutation s
        ((answer.mapError .store).map fun committed => .committed committed.version update.event) v

variable {store : CaseStore m} {id : CaseId} {mutation : Mutation m} {s t u : σ}
  {r : Except ReconcileError WriteOutcome}

theorem readAndWritten_of_run [LawfulMonad m]
    (h : Run (store.readModifyWrite id mutation).run s r u) :
    ReadAndWritten store id mutation s r u := by
  unfold readModifyWrite at h
  rcases h.of_exceptBind with ⟨e, hadapt, rfl⟩ | ⟨a, t, hadapt, hs⟩
  · obtain ⟨answer, hf, he⟩ := hadapt.of_adapt
    cases answer with
    | error e' => cases he; exact .unread e' u hf
    | ok a => cases he
  obtain ⟨answer, hf, ha⟩ := hadapt.of_adapt
  cases answer with
  | error e => cases ha
  | ok a' =>
  cases ha
  unfold submitMutated at hs
  rcases hs.of_exceptBind with ⟨e, hm, rfl⟩ | ⟨decided, v, hm, hs⟩
  · exact .failed a t e u hf hm
  cases decided with
  | none =>
    obtain ⟨rfl, rfl⟩ := hs.of_exceptPure
    exact .declined a t u hf hm
  | some update =>
    rcases hs.of_exceptBind with ⟨e, hadapt, rfl⟩ | ⟨committed, w, hadapt, hp⟩
    · obtain ⟨answer, hsub, he⟩ := hadapt.of_adapt
      cases answer with
      | error e' => cases he; exact .submitted a t update v (.error e') u hf hm hsub
      | ok committed => cases he
    · obtain ⟨answer, hsub, hc⟩ := hadapt.of_adapt
      obtain ⟨rfl, rfl⟩ := hp.of_exceptPure
      cases answer with
      | error e => cases hc
      | ok committed' => cases hc; exact .submitted a t update v (.ok committed) u hf hm hsub

theorem transacted_of_run (h : Run (store.callback id mutation).run s r u) :
    ∃ answer last, Run (store.transact id (runNoted mutation)).run (.ok none, s) answer (last, u) ∧
      r = settle answer last := by
  obtain ⟨p, t, hp, hr⟩ := Runs.of_bind h
  obtain ⟨rfl, rfl⟩ := Runs.of_pure hr
  exact ⟨p.1, p.2, hp, rfl⟩

theorem run_of_runNoted {a : CaseSnapshot} {last last' : LastRun} {answer : Option CaseUpdate}
    (h : Run (runNoted mutation a) (last, s) answer (last', t)) :
    ∃ decided, Run (mutation a).run s decided t ∧
      last' = decided.map (Option.map CaseUpdate.event) ∧ answer = decided.toOption.join := by
  obtain ⟨decided, v, hlift, hrest⟩ := Runs.of_bind h
  obtain ⟨hm, -⟩ := hlift.of_stateLift
  obtain ⟨⟨⟩, w, hset, hp⟩ := Runs.of_bind hrest
  obtain ⟨ha, ht⟩ := Runs.of_pure hp
  have hw : (last', t) = (decided.map (Option.map CaseUpdate.event), v.2) :=
    ht.trans hset.of_set
  obtain ⟨hlast, rfl⟩ := Prod.mk.inj hw
  exact ⟨decided, hm, hlast, ha⟩

end CaseStore

end HearingSync
