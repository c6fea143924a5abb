import HearingSync.Reconcile
import HearingSync.Store.Memory
/-!
The reconciliation with its case store in memory. The other services may have effects of any kind,
but none on the store: each of their programs runs beside the store and leaves it as it is. Main
statement: so does the mutation that a message calls for.
-/

namespace HearingSync

variable {n : Type → Type} [Monad n] {ε ε' α β σ : Type}

/-- The program beside a state that it does not touch. -/
def withState (x : ExceptT ε n α) : ExceptT ε (StateT σ n) α :=
  ExceptT.mk (StateT.lift x.run)

def ReferenceData.withState (r : ReferenceData n) : ReferenceData (StateT σ n) where
  venue? code := HearingSync.withState (r.venue? code)
  judge? code := HearingSync.withState (r.judge? code)
  now := StateT.lift r.now

def Collaborators.overMemory (c : Collaborators n) : Collaborators (StateT MemoryStore n) where
  hearing id := withState (c.hearing id)
  reference := c.reference.withState
  store := MemoryStore.caseStore
  note m := StateT.lift (c.note m)

def Mutation.overMemory (mutation : Mutation n) : Mutation (StateT MemoryStore n) :=
  fun snapshot => withState (mutation snapshot)

variable [LawfulMonad n]

theorem run_withState (x : ExceptT ε n α) (s : σ) :
    (withState x).run.run s = (fun r => (r, s)) <$> x.run := by
  rw [map_eq_pure_bind]
  exact StateT.run_lift x.run s

@[simp] theorem withState_pure (a : α) :
    (withState (pure a : ExceptT ε n α) : ExceptT ε (StateT σ n) α) = pure a := by
  refine ExceptT.ext (StateT.ext fun s => ?_)
  rw [run_withState]
  simp

@[simp] theorem withState_throw (e : ε) :
    (withState (throw e : ExceptT ε n α) : ExceptT ε (StateT σ n) α) = throw e := by
  refine ExceptT.ext (StateT.ext fun s => ?_)
  rw [run_withState]
  simp

@[simp] theorem withState_liftM (x : n α) :
    (withState (liftM x : ExceptT ε n α) : ExceptT ε (StateT σ n) α) =
      liftM (StateT.lift x : StateT σ n α) := by
  refine ExceptT.ext (StateT.ext fun s => ?_)
  rw [run_withState]
  simp [StateT.run_lift]

@[simp] theorem withState_bind (x : ExceptT ε n α) (f : α → ExceptT ε n β) :
    (withState (x >>= f) : ExceptT ε (StateT σ n) β) =
      withState x >>= fun a => withState (f a) := by
  refine ExceptT.ext (StateT.ext fun s => ?_)
  rw [run_withState, ExceptT.run_bind, ExceptT.run_bind, StateT.run_bind, run_withState, map_bind,
    bind_map_left]
  refine bind_congr fun r => ?_
  cases r with
  | error e => simp
  | ok a => exact (run_withState (f a) s).symm

@[simp] theorem withState_map (f : α → β) (x : ExceptT ε n α) :
    (withState (f <$> x) : ExceptT ε (StateT σ n) β) = f <$> withState x := by
  rw [map_eq_pure_bind, map_eq_pure_bind, withState_bind]
  simp only [withState_pure]

@[simp] theorem withState_adapt (f : ε → ε') (x : ExceptT ε n α) :
    (withState (x.adapt f) : ExceptT ε' (StateT σ n) α) = (withState x).adapt f := by
  refine ExceptT.ext (StateT.ext fun s => ?_)
  have hl : (withState (x.adapt f)).run.run s = (fun r => (r, s)) <$> Except.mapError f <$> x.run :=
    run_withState _ s
  have hr : ((withState x).adapt f).run.run s =
      (fun p => (Except.mapError f p.1, p.2)) <$> (withState x).run.run s :=
    StateT.run_map _ _ s
  rw [hl, hr, run_withState, Functor.map_map, Functor.map_map]

variable (judge? : PersonalCode → ExceptT ClientError n (Option JudicialUser))
  (note : Note → n Unit)

theorem resolveMember_withState (code : PersonalCode) :
    Panel.resolveMember (m := StateT σ n) (fun c => withState (judge? c))
      (fun m => StateT.lift (note m)) code = withState (Panel.resolveMember judge? note code) := by
  simp only [Panel.resolveMember, withState_bind, withState_adapt]
  refine bind_congr fun found => ?_
  by_cases h : found.isNone = true <;> simp [h]

theorem resolveMembers_withState (codes : List PersonalCode) :
    Panel.resolveMembers (m := StateT σ n) (fun c => withState (judge? c))
      (fun m => StateT.lift (note m)) codes =
        withState (Panel.resolveMembers judge? note codes) := by
  induction codes with
  | nil => simp [Panel.resolveMembers]
  | cons code codes ih => simp [Panel.resolveMembers, ih, resolveMember_withState]

theorem panel_resolve_withState (session : ListedSession) :
    Panel.resolve (m := StateT σ n) (fun c => withState (judge? c))
      (fun m => StateT.lift (note m)) session = withState (Panel.resolve judge? note session) := by
  unfold Panel.resolve
  by_cases hn : session.judge.isNone = true ∧ session.panelMembers.isEmpty = true
  · simp [hn]
  rw [if_neg hn, if_neg hn]
  cases session.judge with
  | none => split <;> simp [resolveMembers_withState]
  | some code => split <;> simp [resolveMembers_withState, resolveMember_withState]

theorem listedUpdate_resolve_withState (reference : ReferenceData n) (panelEnabled : Bool)
    (caseId : CaseId) (detail : HearingDetail) (hearings : List Hearing) (previous : WorkBasket) :
    ListedUpdate.resolve (m := StateT σ n) reference.withState (fun m => StateT.lift (note m))
        panelEnabled caseId detail hearings previous =
      withState (ListedUpdate.resolve reference note panelEnabled caseId detail hearings
        previous) := by
  unfold ListedUpdate.resolve
  cases detail.singleSession with
  | error e => simp
  | ok session =>
    simp only [ReferenceData.withState, withState_bind, withState_adapt]
    refine bind_congr fun venue => ?_
    cases venue with
    | none => simp
    | some venue =>
      cases panelEnabled with
      | false => simp
      | true => simp [panel_resolve_withState]

variable (c : Collaborators n) (settings : Settings) (message : HearingMessage)
  (detail : HearingDetail)

theorem revise_overMemory (data : CaseData) :
    Reconcile.revise c.overMemory settings message detail data =
      withState (Reconcile.revise c settings message detail data) := by
  unfold Reconcile.revise
  cases detail.disposition with
  | listedUpdate => simp [Collaborators.overMemory, listedUpdate_resolve_withState]
  | cancelledInListing => simp
  | terminalCancellation => simp
  | failure => simp
  | notActionable reason => simp

theorem mutation_overMemory :
    Reconcile.mutation c.overMemory settings message detail =
      (Reconcile.mutation c settings message detail).overMemory := by
  funext a
  unfold Reconcile.mutation Mutation.overMemory
  cases h : detail.status.rule.event? (detail.eventContext settings.policy a.data.state) with
  | none => simp [h]
  | some type => simp [h, revise_overMemory]

end HearingSync
