import HearingSync.Proofs.Reconcile.Handling
import HearingSync.Proofs.Store.Strategies
/-!
Transactions that ask their question more than once. A store may throw a run of the mutation away
and run it again on another snapshot, as often as it likes; what it commits is what the last run
said, or nothing. Main statements: a write by transaction reports what was committed and what the
last run said, whatever the runs before it came to, and the stage's store is such a store.
-/

namespace HearingSync

open Runs (Run)

structure Commits (σ : Type) where
  /-- Nothing was committed from the one state to the other. -/
  nothing : σ → σ → Prop
  /-- One update of a case was committed, which gave the snapshot. -/
  one : CaseId → CaseUpdate → CaseSnapshot → σ → σ → Prop
  nothing_trans : ∀ {s t u}, nothing s t → nothing t u → nothing s u
  one_of_nothing : ∀ {id update new s t u}, nothing s t → one id update new t u →
    one id update new s u
  not_nothing : ∀ {id update new s t}, one id update new s t → ¬nothing s t
  one_unique : ∀ {id update update' new new' s t}, one id update new s t →
    one id update' new' s t → update'.event = update.event ∧ new' = new

namespace CaseStore

variable {m : Type → Type} [Monad m] {σ τ : Type} [Runs m σ]

section Transactions

variable (C : Commits σ) (question : CaseSnapshot → StateT τ m (Option CaseUpdate))

/-- The question is asked on one snapshot after another, and nothing is committed in between. Each
snapshot is listed with what was answered on it. -/
inductive Questioned (p : τ × σ) : List (CaseSnapshot × Option CaseUpdate) → τ × σ → Prop where
  | nil (t : σ) : C.nothing p.2 t → Questioned p [] (p.1, t)
  | snoc (asked : List (CaseSnapshot × Option CaseUpdate)) (q : τ × σ) (a : CaseSnapshot)
      (told : Option CaseUpdate) (u : τ × σ) (t : σ) : Questioned p asked q →
      Run (question a) q told u → C.nothing u.2 t → Questioned p (asked ++ [(a, told)]) (u.1, t)

/-- The last answer is committed and the new snapshot returned, or nothing is committed. -/
inductive Transaction (id : CaseId) (p : τ × σ) : List (CaseSnapshot × Option CaseUpdate) →
    Except StoreError (Option CaseSnapshot) → τ × σ → Prop where
  | committed (asked : List (CaseSnapshot × Option CaseUpdate)) (a : CaseSnapshot)
      (update : CaseUpdate) (new : CaseSnapshot) (u : τ × σ) (t : σ) :
      Questioned C question p (asked ++ [(a, some update)]) u → C.one id update new u.2 t →
      Transaction id p (asked ++ [(a, some update)]) (.ok (some new)) (u.1, t)
  | nothing (asked : List (CaseSnapshot × Option CaseUpdate))
      (answer : Except StoreError (Option CaseSnapshot)) (u : τ × σ) :
      Questioned C question p asked u → (∀ new, answer ≠ .ok (some new)) →
      Transaction id p asked answer u

end Transactions

/-- The store asks as often as it likes, and commits what it was told last or nothing. -/
def Reruns (store : CaseStore m) (C : Commits σ) : Prop :=
  ∀ (τ : Type) (id : CaseId) (question : CaseSnapshot → StateT τ m (Option CaseUpdate))
    (p : τ × σ) (answer : Except StoreError (Option CaseSnapshot)) (q : τ × σ),
    Run (store.transact id question).run p answer q →
      ∃ asked, Transaction C question id p asked answer q

abbrev Verdict := CaseSnapshot → Except ReconcileError (Option CaseUpdate)

def Verdict.mutation (f : Verdict) : Mutation m := fun a => ExceptT.mk (pure (f a))

def Verdict.told (f : Verdict) (a : CaseSnapshot) : CaseSnapshot × Option CaseUpdate :=
  (a, (f a).toOption.join)

def Verdict.last (f : Verdict) (seen : List CaseSnapshot) : LastRun :=
  seen.getLast?.elim (.ok none) fun a => (f a).map (Option.map CaseUpdate.event)

/-- How a write reports a transaction, by the last snapshot that was asked about, the answer of the
store and its states before and after. -/
structure Reported (C : Commits σ) (f : Verdict) (id : CaseId) (last? : Option CaseSnapshot)
    (answer : Except StoreError (Option CaseSnapshot)) (s t : σ)
    (r : Except ReconcileError WriteOutcome) : Prop where
  committed_iff : ∀ version event, r = .ok (.committed version event) ↔
    ∃ update new, C.one id update new s t ∧ new.version = version ∧ update.event = event
  committed_last : ∀ version event, r = .ok (.committed version event) →
    ∃ a update new, last? = some a ∧ f a = .ok (some update) ∧ answer = .ok (some new) ∧
      C.one id update new s t ∧ new.version = version ∧ update.event = event
  uncommitted : (∀ version event, r ≠ .ok (.committed version event)) → C.nothing s t
  failed : ∀ a e, last? = some a → f a = .error e → r = .error e
  unanswered : ∀ e, (∀ a, last? = some a → ∀ e', f a ≠ .error e') → answer = .error e →
    r = .error (.store e)
  error_cases : ∀ e, r = .error e → (∃ a, last? = some a ∧ f a = .error e) ∨
    ∃ e', answer = .error e' ∧ e = .store e'

variable {C : Commits σ} {f : Verdict} {id : CaseId} {s t : σ}

theorem Verdict.last_append (f : Verdict) (seen : List CaseSnapshot) (a : CaseSnapshot) :
    f.last (seen ++ [a]) = (f a).map (Option.map CaseUpdate.event) := by
  simp [Verdict.last]

/-- Whatever the runs before it came to, only the last one is known of in the end. -/
theorem seen_of_questioned {p q : LastRun × σ} {asked : List (CaseSnapshot × Option CaseUpdate)}
    (h : Questioned C (runNoted (f.mutation (m := m))) p asked q) (hp : p.1 = .ok none) :
    ∃ seen, asked = seen.map f.told ∧ q.1 = f.last seen ∧ C.nothing p.2 q.2 := by
  induction h with
  | nil t hn => exact ⟨[], rfl, hp, hn⟩
  | snoc asked q a told u t _ hrun hn ih =>
    obtain ⟨seen, rfl, -, hq⟩ := ih
    have hrun : Run (runNoted (f.mutation (m := m)) a) (q.1, q.2) told (u.1, u.2) := hrun
    obtain ⟨decided, hm, hlast, rfl⟩ := run_of_runNoted hrun
    obtain ⟨rfl, hu⟩ := Runs.of_pure hm
    refine ⟨seen ++ [a], by simp [Verdict.told], hlast.trans (f.last_append seen a).symm, ?_⟩
    exact C.nothing_trans hq (hu ▸ hn)

theorem seen_last {seen : List CaseSnapshot} {asked : List (CaseSnapshot × Option CaseUpdate)}
    {a : CaseSnapshot} {update : CaseUpdate} (h : asked ++ [(a, some update)] = seen.map f.told) :
    seen.getLast? = some a ∧ f a = .ok (some update) := by
  have hlast : (seen.map f.told).getLast? = some (a, some update) := by
    rw [← h]
    exact List.getLast?_concat
  rw [List.getLast?_map, Option.map_eq_some_iff] at hlast
  obtain ⟨b, hb, htold⟩ := hlast
  obtain ⟨rfl, hjoin⟩ := Prod.mk.inj htold
  refine ⟨hb, ?_⟩
  rcases hf : f b with e | answer
  · rw [hf] at hjoin
    cases hjoin
  · rw [hf] at hjoin
    exact congrArg Except.ok hjoin

theorem reported_of_one {a new : CaseSnapshot} {update : CaseUpdate}
    (hf : f a = .ok (some update)) (hone : C.one id update new s t) :
    Reported C f id (some a) (.ok (some new)) s t (.ok (.committed new.version update.event)) where
  committed_iff version event := by
    constructor
    · rintro ⟨⟩
      exact ⟨update, new, hone, rfl, rfl⟩
    · rintro ⟨update', new', hone', rfl, rfl⟩
      obtain ⟨hevent, rfl⟩ := C.one_unique hone hone'
      rw [hevent]
  committed_last version event := by
    rintro ⟨⟩
    exact ⟨a, update, new, rfl, hf, rfl, hone, rfl, rfl⟩
  uncommitted h := absurd rfl (h _ _)
  failed b e hb he := by
    cases hb
    cases hf.symm.trans he
  unanswered e _ he := by cases he
  error_cases e he := by cases he

theorem settle_ne_committed {answer : Except StoreError (Option CaseSnapshot)}
    (h : ∀ new, answer ≠ .ok (some new)) (last : LastRun) (version : Nat) (event : CaseEvent) :
    settle answer last ≠ .ok (.committed version event) := by
  intro hr
  unfold settle at hr
  split at hr
  · cases hr
  · cases hr
  · exact absurd rfl (h _)
  · cases hr

theorem error_of_settle {answer : Except StoreError (Option CaseSnapshot)} {last : LastRun}
    {e : ReconcileError} (h : settle answer last = .error e) :
    last = .error e ∨ ∃ e', answer = .error e' ∧ e = .store e' := by
  unfold settle at h
  split at h
  · exact .inl (congrArg Except.error (Except.error.inj h))
  · exact .inr ⟨_, rfl, (Except.error.inj h).symm⟩
  · cases h
  · cases h

theorem reported_of_nothing {answer : Except StoreError (Option CaseSnapshot)}
    {last? : Option CaseSnapshot} (hn : C.nothing s t) (h : ∀ new, answer ≠ .ok (some new)) :
    Reported C f id last? answer s t
      (settle answer (last?.elim (.ok none) fun a => (f a).map (Option.map CaseUpdate.event))) where
  committed_iff version event := by
    constructor
    · intro hr
      exact absurd hr (settle_ne_committed h _ version event)
    · rintro ⟨update, new, hone, -⟩
      exact absurd hn (C.not_nothing hone)
  committed_last version event hr := absurd hr (settle_ne_committed h _ version event)
  uncommitted _ := hn
  failed a e ha he := by
    subst ha
    simp [he, settle, Except.map]
  unanswered e hok he := by
    subst he
    rcases last? with _ | a
    · rfl
    · rcases hf : f a with e' | answer
      · exact absurd hf (hok a rfl e')
      · simp [hf, settle, Except.map]
  error_cases e hr := by
    rcases error_of_settle hr with hlast | hanswer
    · rcases last? with _ | a
      · cases hlast
      · rcases hf : f a with e' | decided
        · rw [Option.elim_some, hf] at hlast
          exact .inl ⟨a, rfl, hf.trans (congrArg Except.error (Except.error.inj hlast))⟩
        · rw [Option.elim_some, hf] at hlast
          cases hlast
    · exact .inr hanswer

/-- A write by transaction reports a commit exactly where the store has committed, and then what was
committed; where it has not, the failure of the last run, or else that of the store. -/
theorem write_reported {store : CaseStore m} (hstore : store.Reruns C) (f : Verdict)
    {r : Except ReconcileError WriteOutcome}
    (h : Run (store.write .callback id f.mutation).run s r t) :
    ∃ (seen : List CaseSnapshot) (answer : Except StoreError (Option CaseSnapshot))
        (last : LastRun),
      Run (store.transact id (runNoted f.mutation)).run (.ok none, s) answer (last, t) ∧
      Transaction C (runNoted (f.mutation (m := m))) id (.ok none, s) (seen.map f.told) answer
        (last, t) ∧
      Reported C f id seen.getLast? answer s t r := by
  obtain ⟨answer, last, hrun, rfl⟩ := transacted_of_run h
  obtain ⟨asked, htransaction⟩ := hstore _ id _ _ _ _ hrun
  have hwhole := htransaction
  cases htransaction with
  | committed asked a update new u _ hasked hone =>
    obtain ⟨seen, hseen, hlast, hn⟩ := seen_of_questioned hasked rfl
    obtain ⟨ha, hf⟩ := seen_last hseen
    refine ⟨seen, _, _, hrun, hseen ▸ hwhole, ?_⟩
    rw [ha, hlast, Verdict.last, ha]
    simp only [Option.elim, hf]
    exact reported_of_one hf (C.one_of_nothing hn hone)
  | nothing asked _ _ hasked hanswer =>
    obtain ⟨seen, rfl, hlast, hn⟩ := seen_of_questioned hasked rfl
    obtain rfl : last = f.last seen := hlast
    exact ⟨seen, answer, _, hrun, hwhole, reported_of_nothing hn hanswer⟩

end CaseStore

/-- The commits in a store in memory that is a part of the state. Another writer may move a case on
without a commit. -/
def Commits.inMemory {σ : Type} (view : σ → MemoryStore) : Commits σ where
  nothing s t := (view t).events = (view s).events
  one id update new s t :=
    (view t).events = (view s).events ++ [(id, update.event)] ∧ (view t).get? id = some new ∧
      ∃ a : CaseSnapshot, new = a.commit update
  nothing_trans hst htu := htu.trans hst
  one_of_nothing hst := by
    rintro ⟨hevents, hnew⟩
    exact ⟨hst ▸ hevents, hnew⟩
  not_nothing := by
    rintro id update new s t ⟨hevents, -⟩ hn
    have hlength := congrArg List.length (hn.symm.trans hevents)
    rw [List.length_append, List.length_singleton] at hlength
    omega
  one_unique := by
    rintro id update update' new new' s t ⟨hevents, hnew, -⟩ ⟨hevents', hnew', -⟩
    have hlast := List.append_cancel_left (hevents'.symm.trans hevents)
    simp only [List.cons.injEq, Prod.mk.injEq, true_and, and_true] at hlast
    exact ⟨hlast, Option.some.inj (hnew'.symm.trans hnew)⟩

namespace Rehearsal

open CaseStore (Questioned Transaction)

def commits : Commits (Stage × Unit) := .inMemory fun s => s.1.store

theorem one_of_apply {s t : Stage × Unit} {id : CaseId} {a : CaseSnapshot} {update : CaseUpdate}
    (h : t.1.store = s.1.store.apply id a update) :
    commits.one id update (a.commit update) s t := by
  have hevents : t.1.store.events = s.1.store.events ++ [(id, update.event)] :=
    h ▸ MemoryStore.apply_events
  have hheld : t.1.store.get? id = some (a.commit update) := h ▸ MemoryStore.get?_apply_self
  exact ⟨hevents, hheld, a, rfl⟩

section Transacts

variable {τ : Type} (id : CaseId) (question : CaseSnapshot → StateT τ Rehearse (Option CaseUpdate))
  (p : τ × Stage × Unit)

def AsksOnly {α : Type} (x : ExceptT StoreError (StateT τ Rehearse) α) : Prop :=
  ∀ asked q r u, Questioned commits question p asked q → Run x.run q r u →
    ∃ asked', Questioned commits question p asked' u

/-- The last part of a transaction, whatever was asked in the parts before. -/
def Transacts (x : ExceptT StoreError (StateT τ Rehearse) (Option CaseSnapshot)) : Prop :=
  ∀ asked q answer u, Questioned commits question p asked q → Run x.run q answer u →
    ∃ asked', Transaction commits question id p asked' answer u

variable {id question p}

/-- What the store does between its questions goes on after the last one. -/
theorem questioned_quiet {q : τ × Stage × Unit} {asked : List (CaseSnapshot × Option CaseUpdate)}
    {t : Stage × Unit} (h : Questioned commits question p asked q)
    (hquiet : commits.nothing q.2 t) : Questioned commits question p asked (q.1, t) := by
  cases h with
  | nil s hn => exact .nil t (commits.nothing_trans hn hquiet)
  | snoc asked q a told u s hasked hrun hn =>
    exact .snoc asked q a told u t hasked hrun (commits.nothing_trans hn hquiet)

theorem questioned_lift {α : Type} {x : Rehearse α} {a : α} {q u : τ × Stage × Unit}
    {asked : List (CaseSnapshot × Option CaseUpdate)}
    (hx : ∀ s : Stage, (x s).2.store.events = s.store.events)
    (hasked : Questioned commits question p asked q)
    (h : Run (liftM x : StateT τ Rehearse α) q a u) : Questioned commits question p asked u := by
  obtain ⟨hrun, hu⟩ := h.of_stateLift
  have hstage : (a, u.2.1) = x q.2.1 := hrun
  have hquiet : commits.nothing q.2 u.2 := by
    have hevents := hx q.2.1
    rw [← hstage] at hevents
    exact hevents
  have hwhole := questioned_quiet hasked hquiet
  rw [← hu] at hwhole
  exact hwhole

theorem AsksOnly.lift {α : Type} {x : Rehearse α}
    (hx : ∀ s : Stage, (x s).2.store.events = s.store.events) :
    AsksOnly question p (liftM x : ExceptT StoreError (StateT τ Rehearse) α) := by
  intro asked q r u hasked h
  obtain ⟨a, hrun, -⟩ := Runs.Run.of_exceptLift (x := (liftM x : StateT τ Rehearse α)) h
  exact ⟨asked, questioned_lift hx hasked hrun⟩

theorem AsksOnly.tryOut : AsksOnly question p (tryOut id question) := by
  intro asked q r u hasked h
  have hfetch : ∀ s : Stage, ((memory.fetch id).run s).2.store.events = s.store.events :=
    fun _ => rfl
  rcases h.of_exceptBind with ⟨e, hread, -⟩ | ⟨a, v, hread, h⟩
  · exact ⟨asked, questioned_lift (x := (memory.fetch id).run) hfetch hasked hread⟩
  · have hasked := questioned_lift (x := (memory.fetch id).run) hfetch hasked hread
    obtain ⟨told, hquestion, -⟩ := h.of_exceptLift
    exact ⟨_, .snoc asked v a told u u.2 hasked hquestion rfl⟩

theorem transaction_of_uncommitted {q : τ × Stage × Unit}
    {asked : List (CaseSnapshot × Option CaseUpdate)}
    {answer r : Except StoreError (Option CaseSnapshot)}
    (hasked : Questioned commits question p asked q) (hanswer : answer = r)
    (hr : r.toOption.join = none) :
    ∃ asked', Transaction commits question id p asked' answer q := by
  refine ⟨asked, .nothing asked answer q hasked ?_⟩
  rintro new rfl
  rw [← hanswer] at hr
  cases hr

theorem Transacts.throw (e : StoreError) : Transacts id question p (MonadExcept.throw e) := by
  intro asked q answer u hasked h
  obtain ⟨hanswer, rfl⟩ := h.of_throw
  exact transaction_of_uncommitted hasked hanswer rfl

theorem Transacts.declined : Transacts id question p (pure none) := by
  intro asked q answer u hasked h
  obtain ⟨hanswer, rfl⟩ := h.of_exceptPure
  exact transaction_of_uncommitted hasked hanswer rfl

theorem Transacts.bind {α : Type} {x : ExceptT StoreError (StateT τ Rehearse) α}
    {f : α → ExceptT StoreError (StateT τ Rehearse) (Option CaseSnapshot)}
    (hx : AsksOnly question p x) (hf : ∀ a, Transacts id question p (f a)) :
    Transacts id question p (x >>= f) := by
  intro asked q answer u hasked h
  rcases h.of_exceptBind with ⟨e, hrun, hanswer⟩ | ⟨a, v, hrun, h⟩
  · obtain ⟨asked, hasked⟩ := hx asked q _ u hasked hrun
    exact transaction_of_uncommitted hasked hanswer rfl
  · obtain ⟨asked, hasked⟩ := hx asked q _ v hasked hrun
    exact hf a asked v answer u hasked h

theorem Transacts.memory : Transacts id question p (memory.transact id question) := by
  intro asked q answer u hasked h
  obtain ⟨held, v, hheld, h⟩ := Runs.of_bind h
  have hasked := questioned_lift (x := getThe MemoryStore) (fun _ => rfl) hasked hheld
  cases hf : held.fetch id with
  | error e =>
    rw [hf] at h
    obtain ⟨hanswer, rfl⟩ := Runs.of_pure h
    exact transaction_of_uncommitted hasked hanswer rfl
  | ok a =>
    rw [hf] at h
    obtain ⟨told, w, hquestion, h⟩ := Runs.of_bind h
    have hasked := Questioned.snoc asked v a told w w.2 hasked hquestion rfl
    cases told with
    | none =>
      obtain ⟨hanswer, rfl⟩ := Runs.of_pure h
      exact transaction_of_uncommitted hasked hanswer rfl
    | some update =>
      obtain ⟨⟨⟩, z, hmodify, h⟩ := Runs.of_bind h
      obtain ⟨rfl, rfl⟩ := Runs.of_pure h
      obtain ⟨hrun, hu⟩ := hmodify.of_stateLift
      have hstage : u.2.1 = { w.2.1 with store := w.2.1.store.apply id a update } :=
        (Prod.mk.inj (show (PUnit.unit, u.2.1) = (PUnit.unit, _) from hrun)).2
      have hone : commits.one id update (a.commit update) w.2 u.2 :=
        one_of_apply (congrArg Stage.store hstage)
      have hwhole := Transaction.committed asked a update (a.commit update) w u.2 hasked hone
      rw [← hu] at hwhole
      exact ⟨_, hwhole⟩

end Transacts

/-- However it misbehaves, the store commits what it was told last or nothing. -/
theorem observedStore_reruns : observedStore.Reruns commits := by
  intro τ id question p answer q h
  have hwhole : Transacts id question p (observedStore.transact id question) := by
    refine .bind (.lift (x := call .callback) fun _ => rfl) fun _ => ?_
    refine .bind (.lift (x := currentFault) fun _ => rfl) fun fault => ?_
    cases fault with
    | none => exact .memory
    | race => exact .memory
    | rerun =>
      exact .bind .tryOut fun _ => .bind (.lift (x := touch id) fun _ => MemoryStore.touch_events)
        fun _ => .memory
    | reject =>
      refine .bind .tryOut fun told => ?_
      cases told with
      | none => exact .declined
      | some update => exact .throw (refusal id)
    | swallow => exact .bind .tryOut fun _ => .declined
  exact hwhole [] p answer q (.nil p.2 rfl) h

/-- Fails on the first version of a case and books a hearing on any later one. -/
def secondThoughts : CaseStore.Verdict := fun a =>
  if a.version = 1 then .error (.store (.conflict a.data.caseId a.version))
  else .ok (some
    { data := a.data, event := { type := .hearingBooked, summary := "", description := "" } })

def contendedStage : Stage := { store := MemoryStore.oneCase, fault := .rerun }

def contendedWrite : ExceptT ReconcileError Rehearse WriteOutcome :=
  observedStore.write .callback listingMessage.caseId secondThoughts.mutation

theorem write_reported_contended : observedStore.Reruns commits ∧
    ∃ t update new,
      Run contendedWrite.run (contendedStage, ()) (.ok (.committed 3 update.event)) t ∧
      commits.one listingMessage.caseId update new (contendedStage, ()) t ∧ new.version = 3 := by
  have hrun : Run contendedWrite.run (contendedStage, ())
    (.ok (.committed 3 { type := .hearingBooked, summary := "", description := "" }))
    ((contendedWrite.run contendedStage).2, ()) := rfl
  obtain ⟨seen, answer, last, -, -, hreported⟩ :=
    CaseStore.write_reported observedStore_reruns secondThoughts hrun
  obtain ⟨update, new, hone, hversion, hevent⟩ := (hreported.committed_iff 3 _).mp rfl
  exact ⟨observedStore_reruns, _, update, new, hevent ▸ hrun, hone, hversion⟩

end Rehearsal

end HearingSync
