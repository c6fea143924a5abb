import HearingSync.Proofs.Reconcile.KeepsCase
import HearingSync.Proofs.Store.Writer
/-!
Writes to the store in memory, taken apart into the steps between which others may have their turn:
a write by transaction is one step, reading, changing and submitting are two. Main statement: a
write ends with a commit of what its mutation decides on the current snapshot, or reports none and
leaves the store alone.
-/

namespace HearingSync

structure CaseWrite where
  strategy : WriteStrategy
  caseId : CaseId
  decide : CaseSnapshot → Except ReconcileError (Option CaseUpdate)
  keepsCase : ∀ a update, decide a = .ok (some update) → update.data.caseId = a.data.caseId

namespace CaseWrite

def mutation (w : CaseWrite) : Mutation Id := fun a => ExceptT.mk (w.decide a)

def ofMessage (c : Collaborators Id) (settings : Settings) (message : HearingMessage)
    (detail : HearingDetail) : CaseWrite where
  strategy := settings.strategy
  caseId := message.caseId
  decide := fun a => (Reconcile.mutation c settings message detail a).run
  keepsCase := fun _ _ h => Reconcile.mutation_keeps_caseId h

def fetch (w : CaseWrite) (s : MemoryStore) : Except ReconcileError CaseSnapshot :=
  ((((MemoryStore.caseStore (m := StateM MemoryStore)).fetch w.caseId).adapt
    ReconcileError.store).run.run s).1

def submit (w : CaseWrite) (a : CaseSnapshot) (s : MemoryStore) :
    Except ReconcileError WriteOutcome × MemoryStore :=
  ((MemoryStore.caseStore (m := StateM MemoryStore)).submitMutated
    w.mutation.overMemory a).run.run s

def transact (w : CaseWrite) (s : MemoryStore) :
    Except ReconcileError WriteOutcome × MemoryStore :=
  ((MemoryStore.caseStore (m := StateM MemoryStore)).callback w.caseId
    w.mutation.overMemory).run.run s

variable {w : CaseWrite} {s : MemoryStore}

/-- With no other step in between, the steps make up the write. -/
theorem write_eq_steps : s.write w.strategy w.caseId w.mutation =
    match w.strategy with
    | .callback => w.transact s
    | .readModifyWrite =>
      match w.fetch s with
      | .error e => (.error e, s)
      | .ok a => w.submit a s := by
  cases w.strategy with
  | callback => rfl
  | readModifyWrite =>
    unfold MemoryStore.write CaseStore.write CaseStore.readModifyWrite fetch
    simp only [ExceptT.run_bind, StateT.run_bind, MemoryStore.run_adapt, MemoryStore.run_fetch]
    cases s.fetch w.caseId <;> rfl

theorem fetch_eq : w.fetch s = (s.fetch w.caseId).mapError .store := by
  unfold fetch
  rw [MemoryStore.run_adapt, MemoryStore.run_fetch]
  rfl

theorem submit_eq (a : CaseSnapshot) : w.submit a s = s.submitted a (w.decide a) :=
  MemoryStore.run_submitMutated a w.mutation

theorem transact_eq : w.transact s = match s.fetch w.caseId with
    | .error e => (.error (.store e), s)
    | .ok a => s.conclude w.caseId a (w.decide a) :=
  MemoryStore.run_callback w.mutation

/-- How a write may end: it commits what its mutation decides on the current snapshot, or it
reports no commit and leaves the store alone. -/
inductive Ends (w : CaseWrite) (s : MemoryStore) :
    Except ReconcileError WriteOutcome → MemoryStore → Prop where
  | commit (a update) : s.get? w.caseId = some a → w.decide a = .ok (some update) →
      Ends w s (.ok (.committed (a.version + 1) update.event)) (s.apply w.caseId a update)
  | nothing (r) : (∀ version event, r ≠ .ok (.committed version event)) → Ends w s r s

theorem error_ends (e : ReconcileError) : Ends w s (.error e) s := by
  refine .nothing _ ?_
  intro version event h
  cases h

theorem declined_ends : Ends w s (.ok .declined) s := by
  refine .nothing _ ?_
  intro version event h
  cases h

theorem conclude_ends {a : CaseSnapshot} (ha : s.get? w.caseId = some a) :
    Ends w s (s.conclude w.caseId a (w.decide a)).1 (s.conclude w.caseId a (w.decide a)).2 := by
  cases h : w.decide a with
  | error e => exact error_ends _
  | ok answer =>
    cases answer with
    | none => exact declined_ends
    | some update => exact .commit a update ha h

theorem transact_ends : Ends w s (w.transact s).1 (w.transact s).2 := by
  rw [transact_eq]
  cases h : s.fetch w.caseId with
  | error e => exact error_ends _
  | ok a => exact conclude_ends (MemoryStore.get?_of_fetch h)

/-- A snapshot of the current version is the current one, and another one is refused. -/
theorem submit_ends {a b : CaseSnapshot} (ha : a.data.caseId = w.caseId)
    (hb : s.get? w.caseId = some b) (hab : a.LeadsTo b) :
    Ends w s (w.submit a s).1 (w.submit a s).2 := by
  rw [submit_eq]
  cases hd : w.decide a with
  | error e => exact error_ends _
  | ok answer =>
  cases answer with
  | none => exact declined_ends
  | some update =>
  cases hf : s.fetch a.data.caseId with
  | error e =>
    simp only [MemoryStore.submitted, MemoryStore.submit_of_fetch_error hf]
    exact error_ends _
  | ok current =>
    have hc : current = b := by
      have hg := MemoryStore.get?_of_fetch hf
      rw [ha, hb] at hg
      exact (Option.some.inj hg).symm
    simp only [MemoryStore.submitted, MemoryStore.submit_of_fetch_ok hf]
    by_cases hv : current.version = a.version
    · rw [if_pos hv]
      obtain rfl : b = a := hab.eq_of_version_eq (hc ▸ hv)
      rw [hc, ha]
      exact .commit b update hb hd
    · rw [if_neg hv]
      exact error_ends _

theorem Ends.move {r : Except ReconcileError WriteOutcome} {t : MemoryStore} (h : Ends w s r t)
    (hs : s.cases.UnderOwnIds) : s.Move t := by
  cases h with
  | commit a update ha hd =>
    exact .commit _ a update ha ((w.keepsCase a update hd).trans (hs _ a ha))
  | nothing r _ => exact .stay

end CaseWrite

end HearingSync
