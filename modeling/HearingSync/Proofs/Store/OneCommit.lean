import HearingSync.Proofs.Reconcile.Handling
import HearingSync.Proofs.Store.Writer
/-!
What the handling of a message leaves behind in the store in memory, whatever the other services do
and however often they are asked. Main statement: one commit on top of the current snapshot, or
nothing at all.
-/

namespace HearingSync

open Runs (Run)

namespace MemoryStore

variable {n : Type → Type} [Monad n] [LawfulMonad n] {σ : Type} [Runs n σ]

/-- A write of a case does nothing to the store, or makes one commit on top of what was there. -/
inductive WrittenFor (store : MemoryStore) (id : CaseId) :
    Except ReconcileError WriteOutcome → MemoryStore → Prop where
  | nothing (r : Except ReconcileError WriteOutcome) :
      (∀ version event, r ≠ .ok (.committed version event)) → WrittenFor store id r store
  | commit (l : CaseId) (a : CaseSnapshot) (update : CaseUpdate) : store.get? l = some a →
      (store.cases.UnderOwnIds → l = id) →
      WrittenFor store id (.ok (.committed (a.version + 1) update.event)) (store.apply l a update)

variable {store store' : MemoryStore} {id : CaseId} {s t : σ}
  {r : Except ReconcileError WriteOutcome}

theorem WrittenFor.error (e : ReconcileError) : WrittenFor store id (.error e) store :=
  .nothing _ fun _ _ h => by cases h

theorem WrittenFor.declined : WrittenFor store id (.ok .declined) store :=
  .nothing _ fun _ _ h => by cases h

theorem run_fetch_overMemory {a : Except StoreError CaseSnapshot} {p : MemoryStore × σ}
    (h : Run ((caseStore (m := StateT MemoryStore n)).fetch id).run (store, s) a p) :
    a = store.fetch id ∧ p.1 = store := by
  have h :
      Run (((caseStore (m := StateT MemoryStore n)).fetch id).run.run store) s (a, p.1) p.2 := h
  rw [run_fetch] at h
  exact Prod.mk.inj (Runs.of_pure h).1

theorem run_beside {ε α : Type} {x : ExceptT ε n α} {answer : Except ε α} {p : MemoryStore × σ}
    (h : Run (withState x).run (store, s) answer p) : p.1 = store := by
  have h : Run ((withState x).run.run store) s (answer, p.1) p.2 := h
  rw [run_withState] at h
  obtain ⟨_, -, hp⟩ := h.of_map
  exact (Prod.mk.inj hp).2

omit [LawfulMonad n] in
theorem writtenFor_of_submit {a : CaseSnapshot} {update : CaseUpdate}
    (hf : store.fetch id = .ok a) {answer : Except StoreError CaseSnapshot} {p : MemoryStore × σ}
    (h : Run ((caseStore (m := StateT MemoryStore n)).submit a update).run (store, s) answer p) :
    WrittenFor store id ((answer.mapError .store).map fun committed =>
      .committed committed.version update.event) p.1 := by
  have h : Run (((caseStore (m := StateT MemoryStore n)).submit a update).run.run store) s
    (answer, p.1) p.2 := h
  rw [run_submit] at h
  have hsub : (answer, p.1) = store.submit a update := (Runs.of_pure h).1
  cases hb : store.fetch a.data.caseId with
  | error e =>
    rw [submit_of_fetch_error hb] at hsub
    obtain ⟨rfl, hp⟩ := Prod.mk.inj hsub
    exact hp ▸ .error _
  | ok b =>
    rw [submit_of_fetch_ok hb] at hsub
    by_cases hv : b.version = a.version
    · rw [if_pos hv] at hsub
      obtain ⟨rfl, hp⟩ := Prod.mk.inj hsub
      exact hp ▸ .commit a.data.caseId b update (get?_of_fetch hb) fun hs =>
        hs id a (get?_of_fetch hf)
    · rw [if_neg hv] at hsub
      obtain ⟨rfl, hp⟩ := Prod.mk.inj hsub
      exact hp ▸ .error _

theorem writtenFor_conclude {a : CaseSnapshot} (hf : store.fetch id = .ok a)
    (decided : Except ReconcileError (Option CaseUpdate)) :
    WrittenFor store id (store.conclude id a decided).1 (store.conclude id a decided).2 := by
  cases decided with
  | error e => exact .error e
  | ok answer =>
    cases answer with
    | none => exact .declined
    | some update => exact .commit id a update (get?_of_fetch hf) fun _ => rfl

theorem writtenFor_of_run {strategy : WriteStrategy} {mutation : Mutation n}
    (h : Run ((caseStore (m := StateT MemoryStore n)).write strategy id mutation.overMemory).run
      (store, s) r (store', t)) : WrittenFor store id r store' := by
  cases strategy with
  | callback =>
    have h : Run (((caseStore (m := StateT MemoryStore n)).callback id
      mutation.overMemory).run.run store) s (r, store') t := h
    rw [run_callback, writeAtOnce] at h
    cases hf : store.fetch id with
    | error e =>
      rw [hf] at h
      obtain ⟨rfl, rfl⟩ := Prod.mk.inj (Runs.of_pure h).1
      exact .error _
    | ok a =>
      rw [hf] at h
      obtain ⟨decided, -, hr⟩ := h.of_map
      obtain ⟨rfl, rfl⟩ := Prod.mk.inj hr
      exact writtenFor_conclude hf decided
  | readModifyWrite =>
    cases CaseStore.readAndWritten_of_run h with
    | unread e t hf =>
      obtain ⟨-, rfl⟩ := run_fetch_overMemory hf
      exact .error _
    | failed a v e t hf hm =>
      obtain ⟨-, hv⟩ := run_fetch_overMemory hf
      obtain rfl : store' = v.1 := run_beside hm
      exact hv ▸ .error e
    | declined a v t hf hm =>
      obtain ⟨-, hv⟩ := run_fetch_overMemory hf
      obtain rfl : store' = v.1 := run_beside hm
      exact hv ▸ .declined
    | submitted a v update w answer t hf hm hsub =>
      obtain ⟨ha, hv⟩ := run_fetch_overMemory hf
      have hw : w.1 = v.1 := run_beside hm
      obtain rfl : w.1 = store := hw.trans hv
      exact writtenFor_of_submit ha.symm hsub

inductive HandledFor (store : MemoryStore) (id : CaseId) :
    Except ReconcileError Outcome → MemoryStore → Prop where
  | nothing (r : Except ReconcileError Outcome) :
      (∀ d event version, r ≠ .ok (.committed d event version)) → HandledFor store id r store
  | commit (d : Disposition) (l : CaseId) (a : CaseSnapshot) (update : CaseUpdate) :
      store.get? l = some a → (store.cases.UnderOwnIds → l = id) →
      HandledFor store id (.ok (.committed d update.event.type (a.version + 1)))
        (store.apply l a update)

theorem HandledFor.error (e : ReconcileError) : HandledFor store id (.error e) store :=
  .nothing _ fun _ _ _ h => by cases h

theorem HandledFor.eq_of_not_committed {result : Except ReconcileError Outcome}
    (h : HandledFor store id result store')
    (hr : ∀ d event version, result ≠ .ok (.committed d event version)) : store' = store := by
  cases h with
  | nothing _ _ => rfl
  | commit d l a update _ _ => exact absurd rfl (hr d _ _)

theorem WrittenFor.handledFor (h : WrittenFor store id r store') (d : Disposition) :
    HandledFor store id (r.map (WriteOutcome.outcome d)) store' := by
  cases h with
  | nothing _ hr =>
    refine .nothing _ fun d' event version heq => ?_
    cases r with
    | error e => cases heq
    | ok outcome =>
      cases outcome with
      | committed v e => exact hr v e rfl
      | declined => cases heq
  | commit l a update hl hid => exact .commit d l a update hl hid

section Message

variable {c : Collaborators n} {settings : Settings} {message : HearingMessage}
  {detail : HearingDetail} {result : Except ReconcileError Outcome} {p q : MemoryStore × σ}

omit [LawfulMonad n] in
theorem quiet_overMemory : Quiet (Prod.fst (α := MemoryStore) (β := σ)) c.overMemory.note := by
  intro note p a q h
  exact (Runs.Run.of_stateLift (x := c.note note) h).2

theorem handledFor_of_settled
    (h : Reconcile.Settled c.overMemory settings message Prod.fst detail p result q) :
    HandledFor p.1 message.caseId result q.1 := by
  cases h with
  | notActionable _ ha hq => exact hq ▸ .nothing _ fun _ _ _ h => by cases h
  | badSchedule e _ hl he hq => exact hq ▸ .error _
  | written r t _ hd hw hq =>
    rw [mutation_overMemory] at hw
    exact hq ▸ (writtenFor_of_run hw).handledFor _

theorem handledFor_of_receive
    (h : Run (receive c.overMemory settings message).run (store, s) result (store', t)) :
    HandledFor store message.caseId result store' := by
  rw [Reconcile.receive_eq] at h
  cases hg : settings.gate.refusal? message with
  | some reason =>
    rw [hg] at h
    obtain ⟨rfl, hv⟩ := Reconcile.run_note_pure quiet_overMemory h
    obtain rfl : store' = store := hv
    exact .nothing _ fun _ _ _ h => by cases h
  | none =>
    rw [hg] at h
    cases Reconcile.handled_of_process quiet_overMemory h with
    | unfetched e v _ hf hv =>
      obtain rfl : store' = v.1 := hv
      exact (run_beside hf : v.1 = store) ▸ .error _
    | fetched detail v w _ _ hf hw hs =>
      obtain rfl : w.1 = store := hw.trans (run_beside hf)
      exact handledFor_of_settled hs

end Message

end MemoryStore

end HearingSync
