import HearingSync.Proofs.Reconcile.OverMemory
import HearingSync.Proofs.Store.Memory
/-!
Writing a mutation to the store in memory. With nobody in between, a transaction and reading,
changing and submitting come to the same: one look at the case, one run of the mutation on what is
found there, and one commit. Main statement: under either strategy a write is `writeAtOnce`.
-/

namespace HearingSync.MemoryStore

variable {n : Type → Type} [Monad n]

def conclude (s : MemoryStore) (id : CaseId) (current : CaseSnapshot) :
    Except ReconcileError (Option CaseUpdate) → Except ReconcileError WriteOutcome × MemoryStore
  | .error e => (.error e, s)
  | .ok none => (.ok .declined, s)
  | .ok (some update) =>
    (.ok (.committed (current.version + 1) update.event), s.apply id current update)

/-- A write that nobody interferes with: the mutation runs once on the current snapshot, or not at
all where the case cannot be read. -/
def writeAtOnce (s : MemoryStore) (id : CaseId) (mutation : Mutation n) :
    n (Except ReconcileError WriteOutcome × MemoryStore) :=
  match s.fetch id with
  | .error e => pure (.error (.store e), s)
  | .ok current => s.conclude id current <$> (mutation current).run

def write (s : MemoryStore) (strategy : WriteStrategy) (id : CaseId) (mutation : Mutation n) :
    n (Except ReconcileError WriteOutcome × MemoryStore) :=
  ((caseStore (m := StateT MemoryStore n)).write strategy id mutation.overMemory).run.run s

def answered (s : MemoryStore) (id : CaseId) (current : CaseSnapshot) :
    Option CaseUpdate → MemoryStore
  | none => s
  | some update => s.apply id current update

theorem run_getThe (s : MemoryStore) :
    (getThe MemoryStore : StateT MemoryStore n MemoryStore).run s = pure (s, s) := rfl

theorem run_modifyThe (f : MemoryStore → MemoryStore) (s : MemoryStore) :
    (modifyThe MemoryStore f : StateT MemoryStore n PUnit).run s = pure (⟨⟩, f s) := rfl

variable {s : MemoryStore} {id : CaseId}

theorem run_submit (base : CaseSnapshot) (update : CaseUpdate) :
    ((caseStore (m := StateT MemoryStore n)).submit base update).run.run s =
      pure (s.submit base update) := rfl

variable [LawfulMonad n]

theorem run_fetch : ((caseStore (m := StateT MemoryStore n)).fetch id).run.run s =
    pure (s.fetch id, s) := by
  simp only [caseStore, ExceptT.run_mk, StateT.run_bind, run_getThe, pure_bind]
  rfl

theorem run_transact {τ : Type} (t : τ)
    (question : CaseSnapshot → StateT τ (StateT MemoryStore n) (Option CaseUpdate)) :
    (((caseStore (m := StateT MemoryStore n)).transact id question).run.run t).run s =
      match s.fetch id with
      | .error e => pure ((.error e, t), s)
      | .ok current =>
        (fun p => ((.ok (p.1.1.map current.commit), p.1.2), p.2.answered id current p.1.1)) <$>
          ((question current).run t).run s := by
  simp only [caseStore, ExceptT.run_mk, StateT.run_bind, StateT.run_lift, run_getThe, bind_assoc,
    pure_bind]
  cases s.fetch id with
  | error e => rfl
  | ok current =>
    simp only [StateT.run_bind, map_eq_pure_bind]
    refine bind_congr fun p => ?_
    obtain ⟨⟨answer, t'⟩, s'⟩ := p
    cases answer with
    | none => rfl
    | some update =>
      simp only [StateT.run_bind, StateT.run_lift, StateT.run_pure, bind_assoc, pure_bind,
        run_modifyThe, answered, Option.map_some]

def submitted (s : MemoryStore) (base : CaseSnapshot) :
    Except ReconcileError (Option CaseUpdate) → Except ReconcileError WriteOutcome × MemoryStore
  | .error e => (.error e, s)
  | .ok none => (.ok .declined, s)
  | .ok (some update) =>
    (match (s.submit base update).1 with
      | .error e => .error (.store e)
      | .ok committed => .ok (.committed committed.version update.event),
     (s.submit base update).2)

theorem run_adapt {m : Type → Type} [Monad m] [LawfulMonad m] {ε ε' σ α : Type} (f : ε → ε')
    (x : ExceptT ε (StateT σ m) α) (s : σ) :
    (x.adapt f).run.run s = (fun p => (p.1.mapError f, p.2)) <$> x.run.run s :=
  StateT.run_map _ x.run s

theorem run_submitMutated (base : CaseSnapshot) (mutation : Mutation n) :
    ((caseStore (m := StateT MemoryStore n)).submitMutated mutation.overMemory base).run.run s =
      s.submitted base <$> (mutation base).run := by
  rw [CaseStore.submitMutated, Mutation.overMemory, ExceptT.run_bind, StateT.run_bind,
    run_withState, bind_map_left, map_eq_pure_bind]
  refine bind_congr fun r => ?_
  cases r with
  | error e => rfl
  | ok answer =>
    cases answer with
    | none => rfl
    | some update =>
      simp only [ExceptT.run_bind, StateT.run_bind, run_adapt, run_submit, map_pure, pure_bind,
        submitted]
      cases (s.submit base update).1 <;> rfl

theorem run_runNoted (a : CaseSnapshot) (mutation : Mutation n) (last : CaseStore.LastRun) :
    ((CaseStore.runNoted mutation.overMemory a).run last).run s =
      (fun r => ((r.toOption.join, r.map (Option.map CaseUpdate.event)), s)) <$>
        (mutation a).run := by
  simp only [CaseStore.runNoted, StateT.run_bind, StateT.run_monadLift, monadLift_self,
    Mutation.overMemory, run_withState, bind_map_left, StateT.run_pure, bind_assoc, pure_bind,
    StateT.run_set]
  exact (map_eq_pure_bind _ _).symm

theorem run_callback (mutation : Mutation n) :
    ((caseStore (m := StateT MemoryStore n)).callback id mutation.overMemory).run.run s =
      s.writeAtOnce id mutation := by
  simp only [CaseStore.callback, ExceptT.run_mk, StateT.run_bind, run_transact, writeAtOnce]
  cases s.fetch id with
  | error e => simp [CaseStore.settle]
  | ok current =>
    simp only [run_runNoted, StateT.run_pure, bind_pure_comp, Functor.map_map]
    congr 1
    funext r
    cases r with
    | error e => rfl
    | ok answer => cases answer <;> rfl

/-- A snapshot that was just read is current, so its submission is accepted. -/
theorem submitted_current {a : CaseSnapshot} (h : s.fetch id = .ok a) (ha : a.data.caseId = id)
    (r : Except ReconcileError (Option CaseUpdate)) : s.submitted a r = s.conclude id a r := by
  cases r with
  | error e => rfl
  | ok answer =>
    cases answer with
    | none => rfl
    | some update =>
      subst ha
      simp only [submitted, conclude, submit_of_fetch_ok h, if_pos]
      rfl

/-- Where a case can be read, it is the case of that id. -/
def FilesOwn (s : MemoryStore) (id : CaseId) : Prop := ∀ a, s.fetch id = .ok a → a.data.caseId = id

theorem filesOwn_of_underOwnIds (hs : s.cases.UnderOwnIds) (id : CaseId) : s.FilesOwn id :=
  fun a ha => hs id a (get?_of_fetch ha)

theorem run_readModifyWrite (hs : s.FilesOwn id) (mutation : Mutation n) :
    ((caseStore (m := StateT MemoryStore n)).readModifyWrite id mutation.overMemory).run.run s =
      s.writeAtOnce id mutation := by
  simp only [CaseStore.readModifyWrite, ExceptT.run_bind, StateT.run_bind, run_adapt, run_fetch,
    map_pure, pure_bind, writeAtOnce]
  cases h : s.fetch id with
  | error e => rfl
  | ok a =>
    have ha : a.data.caseId = id := hs a h
    refine (run_submitMutated a mutation).trans ?_
    exact congrArg (· <$> (mutation a).run) (funext (submitted_current h ha))

theorem write_eq_writeAtOnce_of_filesOwn (hs : s.FilesOwn id) (strategy : WriteStrategy)
    (mutation : Mutation n) : s.write strategy id mutation = s.writeAtOnce id mutation := by
  cases strategy with
  | callback => exact run_callback mutation
  | readModifyWrite => exact run_readModifyWrite hs mutation

theorem write_eq_writeAtOnce (hs : s.cases.UnderOwnIds) (strategy : WriteStrategy)
    (mutation : Mutation n) : s.write strategy id mutation = s.writeAtOnce id mutation :=
  write_eq_writeAtOnce_of_filesOwn (filesOwn_of_underOwnIds hs id) strategy mutation

end HearingSync.MemoryStore
