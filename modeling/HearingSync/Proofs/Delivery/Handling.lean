import HearingSync.Proofs.Reconcile.Revising
import HearingSync.Proofs.Reconcile.Services
import HearingSync.Proofs.Store.Strategies
/-!
Messages handed in one after another, over the store in memory. The services may answer each message
by all that they were asked for it. Main statement: what becomes of a message depends on what was
fetched and looked up for it and on whether its case can be read, and a commit is the change of that
case that was looked up.
-/

namespace HearingSync

open Runs (Run)

theorem run_of_withState {n : Type → Type} [Monad n] {σ τ ε α : Type} [Runs n σ]
    {x : ExceptT ε n α} {answer : Except ε α} {p q : τ × σ}
    (h : Run (withState x).run p answer q) : Run x.run p.2 answer q.2 ∧ q.1 = p.1 :=
  Runs.Run.of_stateLift (x := x.run) h

namespace MemoryStore

/-- A write ends with what its mutation decides on the snapshot that is there, if any is. -/
inductive Concludes {n : Type → Type} [Monad n] {σ : Type} [Runs n σ] (store : MemoryStore)
    (id : CaseId) (mutation : Mutation n) (s : σ) :
    Except ReconcileError WriteOutcome → MemoryStore → Prop where
  | unread (e : StoreError) : store.fetch id = .error e →
      Concludes store id mutation s (.error (.store e)) store
  | decided (a : CaseSnapshot) (answer : Except ReconcileError (Option CaseUpdate)) (t : σ) :
      store.fetch id = .ok a → Run (mutation a).run s answer t →
      Concludes store id mutation s (store.conclude id a answer).1
        (store.conclude id a answer).2

theorem concludes_of_run {n : Type → Type} [Monad n] [LawfulMonad n] {σ : Type} [Runs n σ]
    {store store' : MemoryStore} {id : CaseId} {s t : σ} {strategy : WriteStrategy}
    {mutation : Mutation n} {r : Except ReconcileError WriteOutcome}
    (hs : store.FilesOwn id)
    (h : Run ((caseStore (m := StateT MemoryStore n)).write strategy id mutation.overMemory).run
      (store, s) r (store', t)) : Concludes store id mutation s r store' := by
  have h : Run (store.write strategy id mutation) s (r, store') t := h
  rw [write_eq_writeAtOnce_of_filesOwn hs, writeAtOnce] at h
  cases hf : store.fetch id with
  | error e =>
    rw [hf] at h
    obtain ⟨rfl, rfl⟩ := Prod.mk.inj (Runs.of_pure h).1
    exact .unread e hf
  | ok a =>
    rw [hf] at h
    obtain ⟨answer, hm, hr⟩ := h.of_map
    obtain ⟨rfl, rfl⟩ := Prod.mk.inj hr
    exact .decided a answer t hf hm

end MemoryStore

/-- A message, the settings of the one who handles it, and what the services answer to it. -/
structure Delivery where
  settings : Settings
  message : HearingMessage
  services : Services

namespace Delivery

variable (d : Delivery)

def fetched : Except ClientError HearingDetail := d.services.hearing [] d.message.hearingId

def decision (detail : HearingDetail) (a : CaseSnapshot) :
    Except ReconcileError (Option CaseUpdate) :=
  ((Reconcile.mutation d.services.collaborators d.settings d.message detail a).run.run
    [.hearing d.message.hearingId (.ok detail)]).1

def revision (detail : HearingDetail) : Except ReconcileError (Option Revision) :=
  ((Reconcile.revision d.services.collaborators d.settings d.message detail).run.run
    [.hearing d.message.hearingId (.ok detail)]).1

def handle (s : MemoryStore) : Except ReconcileError Outcome × MemoryStore :=
  ((s.process d.services.collaborators d.settings d.message).run []).1

def run (ds : List Delivery) (s : MemoryStore) : MemoryStore :=
  ds.foldl (fun s d => (d.handle s).2) s

inductive Ends (s : MemoryStore) : Except ReconcileError Outcome → MemoryStore → Prop where
  | unfetched (e : ClientError) : d.fetched = .error e →
      Ends s (.error (.fetch d.message.hearingId e)) s
  | notActionable (detail : HearingDetail) : d.fetched = .ok detail →
      detail.disposition.isActionable = false →
      Ends s (.ok (.notActionable detail.disposition)) s
  | badSchedule (detail : HearingDetail) (e : ScheduleError) : d.fetched = .ok detail →
      detail.disposition.isListedUpdate = true → detail.singleSession = .error e →
      Ends s (.error (.schedule e)) s
  | unread (detail : HearingDetail) (e : StoreError) : d.fetched = .ok detail →
      detail.CallsForWrite → s.fetch d.message.caseId = .error e → Ends s (.error (.store e)) s
  | failed (detail : HearingDetail) (a : CaseSnapshot) (e : ReconcileError) :
      d.fetched = .ok detail → detail.CallsForWrite → s.fetch d.message.caseId = .ok a →
      d.revision detail = .error e → Ends s (.error e) s
  | committed (detail : HearingDetail) (a : CaseSnapshot) (r : Revision) (update : CaseUpdate) :
      d.fetched = .ok detail → detail.CallsForWrite → s.fetch d.message.caseId = .ok a →
      d.revision detail = .ok (some r) → r.update? detail d.settings.policy a.data = some update →
      Ends s (.ok (.committed detail.disposition update.event.type (a.version + 1)))
        (s.apply d.message.caseId a update)

variable {d} {detail : HearingDetail} {a : CaseSnapshot} {s : MemoryStore}

/-- What is decided on a case is the change that is looked up without it. -/
theorem decision_eq : d.decision detail a =
    (d.revision detail).map (·.bind fun r => r.update? detail d.settings.policy a.data) := by
  unfold decision revision
  rw [Reconcile.mutation_eq_revision, ExceptT.run_map, StateT.run_map]
  rfl

theorem decision_eq_some_iff {update : CaseUpdate} : d.decision detail a = .ok (some update) ↔
    ∃ r, d.revision detail = .ok (some r) ∧
      r.update? detail d.settings.policy a.data = some update := by
  rw [decision_eq]
  cases d.revision detail with
  | error e => simp [Except.map]
  | ok answer => cases answer <;> simp [Except.map]

theorem revised {answer : Except ReconcileError (Option Revision)}
    (h : d.revision detail = answer) : Reconcile.Revised (σ := List Call × Unit)
      d.services.collaborators d.message detail answer := by
  have hrun : Run (Reconcile.revision d.services.collaborators d.settings d.message detail).run
    ([.hearing d.message.hearingId (.ok detail)], ()) (d.revision detail) (_, ()) := rfl
  exact h ▸ Reconcile.revised_of_run hrun

theorem callsFor_of_revision {r : Revision} (h : d.revision detail = .ok (some r)) :
    detail.CallsFor r := (revised h).callsFor

theorem decision_ne_none (hd : detail.disposition.isActionable = true) (a : CaseSnapshot) :
    d.decision detail a ≠ .ok none := by
  have hrun : Run (Reconcile.mutation d.services.collaborators d.settings d.message detail a).run
    ([.hearing d.message.hearingId (.ok detail)], ()) (d.decision detail a) (_, ()) := rfl
  exact Reconcile.mutation_ne_none hd hrun

/-- What is to be acted upon is looked up in vain, or it gives a change that can be written. -/
theorem decision_cases (hd : detail.disposition.isActionable = true) (a : CaseSnapshot) :
    (∃ e, d.revision detail = .error e ∧ d.decision detail a = .error e) ∨
      ∃ r update, d.revision detail = .ok (some r) ∧
        r.update? detail d.settings.policy a.data = some update ∧
        d.decision detail a = .ok (some update) := by
  have hne := decision_ne_none (d := d) hd a
  rw [decision_eq] at hne ⊢
  cases hr : d.revision detail with
  | error e => exact .inl ⟨e, rfl, rfl⟩
  | ok answer =>
    rw [hr] at hne
    cases answer with
    | none => exact absurd rfl hne
    | some r =>
      cases hu : r.update? detail d.settings.policy a.data with
      | none => exact absurd (by simp [Except.map, hu]) hne
      | some update => exact .inr ⟨r, update, rfl, hu, by simp [Except.map, hu]⟩

theorem quiet_services : Quiet id d.services.collaborators.overMemory.note := by
  intro n p u q h
  obtain ⟨hn, hq⟩ := Runs.Run.of_stateLift (x := d.services.collaborators.note n) h
  exact Prod.ext hq (Runs.of_pure hn).2

theorem ends_of_concludes {r : Except ReconcileError WriteOutcome} {t : MemoryStore}
    (hfetched : d.fetched = .ok detail) (hd : detail.CallsForWrite)
    (h : s.Concludes d.message.caseId
      (Reconcile.mutation d.services.collaborators d.settings d.message detail)
      ([.hearing d.message.hearingId (.ok detail)], ()) r t) :
    d.Ends s (r.map (WriteOutcome.outcome detail.disposition)) t := by
  cases h with
  | unread e hf => exact .unread detail e hfetched hd hf
  | decided a answer u hf hm =>
    obtain rfl : answer = d.decision detail a := (Prod.mk.inj hm).1
    rcases decision_cases (d := d) hd.1 a with ⟨e, hr, he⟩ | ⟨r, update, hr, hu, hok⟩
    · rw [he]
      exact .failed detail a e hfetched hd hf hr
    · rw [hok]
      exact .committed detail a r update hfetched hd hf hr hu

theorem fetched_of_run {answer : Except ClientError HearingDetail}
    {p : MemoryStore × (List Call × Unit)}
    (h : Run (d.services.collaborators.overMemory.hearing d.message.hearingId).run (s, [], ())
      answer p) : answer = d.fetched ∧ p = (s, [.hearing d.message.hearingId answer], ()) := by
  obtain ⟨hcall, hp⟩ := run_of_withState h
  obtain ⟨ha, hcalls⟩ := run_call hcall
  exact ⟨ha, Prod.ext hp (Prod.ext hcalls rfl)⟩

theorem ends_of_settled {result : Except ReconcileError Outcome}
    {p : MemoryStore × List Call × Unit}
    (hs : s.FilesOwn d.message.caseId) (hfetched : d.fetched = .ok detail)
    (h : Reconcile.Settled d.services.collaborators.overMemory d.settings d.message id detail
      (s, [.hearing d.message.hearingId (.ok detail)], ()) result p) : d.Ends s result p.1 := by
  cases h with
  | notActionable _ ha hp => exact congrArg Prod.fst hp ▸ .notActionable detail hfetched ha
  | badSchedule e _ hl he hp => exact congrArg Prod.fst hp ▸ .badSchedule detail e hfetched hl he
  | written r t _ hd hw hp =>
    rw [mutation_overMemory] at hw
    exact congrArg Prod.fst hp ▸ ends_of_concludes hfetched hd (MemoryStore.concludes_of_run hs hw)

theorem ends_of_run {result : Except ReconcileError Outcome} {p : MemoryStore × List Call × Unit}
    (hs : s.FilesOwn d.message.caseId)
    (h : Run (process d.services.collaborators.overMemory d.settings d.message).run (s, [], ())
      result p) : d.Ends s result p.1 := by
  cases Reconcile.handled_of_process quiet_services h with
  | unfetched e t _ hf hp =>
    obtain ⟨he, rfl⟩ := fetched_of_run hf
    exact congrArg Prod.fst hp ▸ .unfetched e he.symm
  | fetched detail t v _ _ hf hv hsettled =>
    obtain ⟨hfetched, rfl⟩ := fetched_of_run hf
    obtain rfl : v = (s, [.hearing d.message.hearingId (.ok detail)], ()) := hv
    exact ends_of_settled hs hfetched.symm hsettled

/-- What becomes of a message is told by what was fetched and looked up for it and by its case. -/
theorem handle_ends_of_filesOwn (hs : s.FilesOwn d.message.caseId) :
    d.Ends s (d.handle s).1 (d.handle s).2 := by
  have h : Run (process d.services.collaborators.overMemory d.settings d.message).run (s, [], ())
    (d.handle s).1 ((d.handle s).2,
      ((s.process d.services.collaborators d.settings d.message).run []).2, ()) := rfl
  exact ends_of_run hs h

theorem handle_ends (hs : s.cases.UnderOwnIds) : d.Ends s (d.handle s).1 (d.handle s).2 :=
  handle_ends_of_filesOwn (MemoryStore.filesOwn_of_underOwnIds hs d.message.caseId)

variable (d) in
def change? : Option (HearingDetail × Revision) :=
  match d.fetched with
  | .error _ => none
  | .ok detail =>
    match d.revision detail with
    | .ok (some r) => some (detail, r)
    | _ => none

variable {r : Revision}

theorem change?_eq_some_iff :
    d.change? = some (detail, r) ↔ d.fetched = .ok detail ∧ d.revision detail = .ok (some r) := by
  unfold change?
  constructor
  · intro h
    split at h
    · cases h
    rename_i fetched hf
    split at h
    · rename_i r' hr
      cases h
      exact ⟨hf, hr⟩
    · cases h
  · rintro ⟨hf, hr⟩
    simp only [hf, hr]

/-- A change that was found is committed wherever the case can be read. -/
theorem handle_of_change (hs : s.cases.UnderOwnIds) (h : d.change? = some (detail, r))
    (ha : s.fetch d.message.caseId = .ok a) :
    ∃ update, r.update? detail d.settings.policy a.data = some update ∧
      d.handle s = (.ok (.committed detail.disposition update.event.type (a.version + 1)),
        s.apply d.message.caseId a update) := by
  obtain ⟨hfetched, hr⟩ := change?_eq_some_iff.mp h
  have hcalls := callsFor_of_revision hr
  have hends := handle_ends (d := d) hs
  generalize d.handle s = p at hends ⊢
  obtain ⟨result, t⟩ := p
  cases hends with
  | unfetched e he => cases hfetched.symm.trans he
  | notActionable detail' hf hn =>
    cases hfetched.symm.trans hf
    rw [hcalls.isActionable] at hn
    cases hn
  | badSchedule detail' e hf hl he =>
    cases hfetched.symm.trans hf
    obtain ⟨session, hsession⟩ := hcalls.session hl
    cases hsession.symm.trans he
  | unread detail' e hf hd he => cases ha.symm.trans he
  | failed detail' a' e hf hd ha' he =>
    cases hfetched.symm.trans hf
    cases hr.symm.trans he
  | committed detail' a' r' update hf hd ha' hr' hu =>
    cases hfetched.symm.trans hf
    cases ha.symm.trans ha'
    cases hr.symm.trans hr'
    exact ⟨update, hu, rfl⟩

/-- Either nothing is committed and the store stays as it was, or a change that was found is
committed on the case as it is. -/
theorem handle_cases (hs : s.cases.UnderOwnIds) :
    ((d.handle s).2 = s ∧ ∀ k event version, (d.handle s).1 ≠ .ok (.committed k event version)) ∨
      ∃ detail r a update, d.change? = some (detail, r) ∧ s.fetch d.message.caseId = .ok a ∧
        r.update? detail d.settings.policy a.data = some update ∧
        d.handle s = (.ok (.committed detail.disposition update.event.type (a.version + 1)),
          s.apply d.message.caseId a update) := by
  have hends := handle_ends (d := d) hs
  generalize d.handle s = p at hends ⊢
  obtain ⟨result, t⟩ := p
  cases hends with
  | committed detail a r update hf hd ha hr hu =>
    exact .inr ⟨detail, r, a, update, change?_eq_some_iff.mpr ⟨hf, hr⟩, ha, hu, rfl⟩
  | _ => exact .inl ⟨rfl, nofun⟩

theorem handle_of_no_change (hs : s.cases.UnderOwnIds) (h : d.change? = none) :
    (d.handle s).2 = s := by
  rcases handle_cases (d := d) hs with ⟨ht, -⟩ | ⟨detail, r, a, update, hchange, -⟩
  · exact ht
  · cases h.symm.trans hchange

theorem handle_of_unread (hs : s.cases.UnderOwnIds) {e : StoreError}
    (h : s.fetch d.message.caseId = .error e) : (d.handle s).2 = s := by
  rcases handle_cases (d := d) hs with ⟨ht, -⟩ | ⟨detail, r, a, update, -, ha, -⟩
  · exact ht
  · cases h.symm.trans ha

theorem handle_of_unfetched {e : ClientError} (hs : s.cases.UnderOwnIds)
    (h : d.fetched = .error e) : d.handle s = (.error (.fetch d.message.hearingId e), s) := by
  have hends := handle_ends (d := d) hs
  generalize d.handle s = p at hends ⊢
  obtain ⟨result, t⟩ := p
  cases hends with
  | unfetched e' he =>
    cases h.symm.trans he
    rfl
  | notActionable detail' hf _ => cases h.symm.trans hf
  | badSchedule detail' e' hf _ _ => cases h.symm.trans hf
  | unread detail' e' hf _ _ => cases h.symm.trans hf
  | failed detail' a e' hf _ _ _ => cases h.symm.trans hf
  | committed detail' a r update hf _ _ _ _ => cases h.symm.trans hf

theorem handle_move (hs : s.cases.UnderOwnIds) : s.Move (d.handle s).2 := by
  rcases handle_cases (d := d) hs with ⟨ht, -⟩ | ⟨detail, r, a, update, -, ha, hu, ht⟩
  · rw [ht]
    exact .stay
  · have ha' := MemoryStore.get?_of_fetch ha
    rw [ht]
    exact .commit _ a update ha' ((Revision.update?_caseId hu).trans (hs _ a ha'))

theorem run_underOwnIds (hs : s.cases.UnderOwnIds) (ds : List Delivery) :
    (run ds s).cases.UnderOwnIds := by
  induction ds generalizing s with
  | nil => exact hs
  | cons d ds ih => exact ih ((handle_move hs).underOwnIds hs)

theorem run_cons (d : Delivery) (ds : List Delivery) :
    run (d :: ds) s = run ds (d.handle s).2 := rfl

theorem run_leadsTo (hs : s.cases.UnderOwnIds) (ds : List Delivery) :
    s.cases.LeadsTo (run ds s).cases := by
  induction ds generalizing s with
  | nil => exact Filing.leadsTo_refl s.cases
  | cons d ds ih =>
    have hmove := handle_move (d := d) hs
    exact hmove.leadsTo.trans (ih (hmove.underOwnIds hs))

/-- A message about a hearing, to services that give the same answers however often they are
asked. -/
def steady (settings : Settings) (caseId : CaseId) (detail : HearingDetail) (venue : Venue)
    (now : Instant) : Delivery where
  settings := settings
  message :=
    { serviceCode := settings.serviceCode, caseId, hearingId := detail.hearingId
      reportedStatus := detail.status }
  services :=
    { hearing := fun _ _ => .ok detail
      venue? := fun _ _ => .ok (some venue)
      judge? := fun _ _ => .ok none
      now := fun _ => now
      fetch := fun _ id => .error (.notFound id)
      submit := fun _ base _ => .error (.notFound base.data.caseId)
      transact := fun _ id => .ends (.error (.notFound id))
      storeName := "" }

end Delivery

end HearingSync
