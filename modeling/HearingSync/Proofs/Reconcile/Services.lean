import HearingSync.Proofs.Reconcile.Deciding
import HearingSync.Proofs.Reconcile.Handling
/-!
Services that answer as they like, by all that they were asked before, and a record of every call.
Main statements: each call puts down itself alone, and a transaction puts down the cases that it
asked about beside what it was told to write.
-/

namespace HearingSync

open Runs (Run)

/-- One call of a service with its answer. A transaction stands where it ended, with what it asked
in between and what it was told. -/
inductive Call where
  | hearing (id : HearingId) (answer : Except ClientError HearingDetail)
  | venue (code : VenueCode) (answer : Except ClientError (Option Venue))
  | judge (code : PersonalCode) (answer : Except ClientError (Option JudicialUser))
  | clock (now : Instant)
  | fetch (id : CaseId) (answer : Except StoreError CaseSnapshot)
  | submit (base : CaseSnapshot) (update : CaseUpdate) (answer : Except StoreError CaseSnapshot)
  | transact (id : CaseId) (asked : List (CaseSnapshot × Option CaseUpdate))
      (answer : Except StoreError (Option CaseSnapshot))

def Call.isLookup : Call → Bool
  | .venue _ _ => true
  | .judge _ _ => true
  | .clock _ => true
  | _ => false

/-- What a store does in a transaction: it asks about some case and goes on by the answer, as often
as it likes, and ends. -/
inductive Dialogue where
  | ends (answer : Except StoreError (Option CaseSnapshot))
  | asks (a : CaseSnapshot) (next : Option CaseUpdate → Dialogue)

def Dialogue.hold {m : Type → Type} [Monad m] (question : CaseSnapshot → m (Option CaseUpdate)) :
    Dialogue → m (List (CaseSnapshot × Option CaseUpdate) × Except StoreError (Option CaseSnapshot))
  | ends answer => return ([], answer)
  | asks a next => do
    let told ← question a
    let (asked, answer) ← hold question (next told)
    return ((a, told) :: asked, answer)

/-- What the services answer to a call, after the calls before it. -/
structure Services where
  hearing : List Call → HearingId → Except ClientError HearingDetail
  venue? : List Call → VenueCode → Except ClientError (Option Venue)
  judge? : List Call → PersonalCode → Except ClientError (Option JudicialUser)
  now : List Call → Instant
  fetch : List Call → CaseId → Except StoreError CaseSnapshot
  submit : List Call → CaseSnapshot → CaseUpdate → Except StoreError CaseSnapshot
  transact : List Call → CaseId → Dialogue
  storeName : String

abbrev Recorded := StateM (List Call)

def Recorded.call {α : Type} (answer : List Call → α) (entry : α → Call) : Recorded α :=
  modifyGet fun calls => (answer calls, calls ++ [entry (answer calls)])

namespace Services

variable (services : Services)

def caseStore : CaseStore Recorded where
  name := services.storeName
  fetch id := ExceptT.mk (.call (services.fetch · id) (.fetch id))
  submit base update := ExceptT.mk (.call (services.submit · base update) (.submit base update))
  transact id question := ExceptT.mk do
    let calls ← StateT.lift get
    let (asked, answer) ← (services.transact calls id).hold question
    StateT.lift (modify (· ++ [.transact id asked answer]))
    return answer

def collaborators : Collaborators Recorded where
  hearing id := ExceptT.mk (.call (services.hearing · id) (.hearing id))
  reference :=
    { venue? := fun code => ExceptT.mk (.call (services.venue? · code) (.venue code))
      judge? := fun code => ExceptT.mk (.call (services.judge? · code) (.judge code))
      now := .call services.now .clock }
  store := services.caseStore
  note _ := pure ()

end Services

def LookedUp (s t : List Call × Unit) : Prop :=
  ∃ lookups, t.1 = s.1 ++ lookups ∧ ∀ call ∈ lookups, call.isLookup = true

instance : IsPreorder (List Call × Unit) LookedUp where
  refl s := ⟨[], (List.append_nil s.1).symm, fun _ h => by cases h⟩
  trans s t u := by
    rintro ⟨first, ht, hfirst⟩ ⟨second, hu, hsecond⟩
    exact ⟨first ++ second, by rw [hu, ht, List.append_assoc],
      List.forall_mem_append.mpr ⟨hfirst, hsecond⟩⟩

variable {services : Services} {settings : Settings} {message : HearingMessage}
  {detail : HearingDetail} {s t u : List Call × Unit}

theorem run_call {α : Type} {answer : List Call → α} {entry : α → Call} {a : α}
    (h : Run (Recorded.call answer entry) s a t) :
    a = answer s.1 ∧ t.1 = s.1 ++ [entry a] := by
  obtain ⟨rfl, ht⟩ := Prod.mk.inj (h : (a, t.1) = (answer s.1, s.1 ++ [entry (answer s.1)]))
  exact ⟨rfl, ht⟩

theorem lookedUp_of_call {α : Type} {answer : List Call → α} {entry : α → Call}
    (hentry : ∀ a, (entry a).isLookup = true) : Keeps LookedUp (Recorded.call answer entry) := by
  intro s a t h
  obtain ⟨-, ht⟩ := run_call h
  refine ⟨[entry a], ht, fun call hc => ?_⟩
  rw [List.mem_singleton.mp hc]
  exact hentry a

namespace Services

theorem quiet : Quiet Prod.fst services.collaborators.note := by
  intro n s a t h
  exact congrArg Prod.fst (Runs.of_pure h).2

theorem consults : services.collaborators.Consults LookedUp where
  venue _ := lookedUp_of_call fun _ => rfl
  judge _ := lookedUp_of_call fun _ => rfl
  now := lookedUp_of_call fun _ => rfl
  note n := by
    intro s a t h
    obtain ⟨-, rfl⟩ := Runs.of_pure h
    exact refl_of LookedUp t

end Services

/-- A transaction holds its dialogue and is then put down. -/
theorem Services.hold_of_transact {τ : Type}
    {question : CaseSnapshot → StateT τ Recorded (Option CaseUpdate)} {id : CaseId}
    {answer : Except StoreError (Option CaseSnapshot)} {p q : τ × List Call × Unit}
    (h : Run (services.caseStore.transact id question).run p answer q) :
    ∃ asked r, Run ((services.transact p.2.1 id).hold question) p (asked, answer) r ∧
      q.1 = r.1 ∧ q.2.1 = r.2.1 ++ [.transact id asked answer] := by
  obtain ⟨calls, p', hget, hrest⟩ := Runs.of_bind h
  obtain ⟨hget, hp'⟩ := Runs.Run.of_stateLift (x := (get : Recorded _)) hget
  obtain ⟨rfl, hcalls⟩ := Prod.mk.inj (hget : (calls, p'.2.1) = (p.2.1, p.2.1))
  obtain rfl : p' = p := Prod.ext hp' (Prod.ext hcalls rfl)
  obtain ⟨ended, r, hhold, hrest⟩ := Runs.of_bind hrest
  obtain ⟨⟨⟩, q', hput, hp⟩ := Runs.of_bind hrest
  obtain ⟨rfl, rfl⟩ := Runs.of_pure hp
  obtain ⟨hput, hq⟩ := Runs.Run.of_stateLift (x := (modify _ : Recorded _)) hput
  exact ⟨ended.1, r, hhold, hq, (Prod.mk.inj hput).2⟩

/-- What the last question of a transaction came to, seen from what was asked and told. -/
inductive LastTold (before : CaseStore.LastRun) :
    List (CaseSnapshot × Option CaseUpdate) → CaseStore.LastRun → Prop where
  | unasked : LastTold before [] before
  | failed (earlier : List (CaseSnapshot × Option CaseUpdate)) (a : CaseSnapshot)
      (e : ReconcileError) : LastTold before (earlier ++ [(a, none)]) (.error e)
  | update (earlier : List (CaseSnapshot × Option CaseUpdate)) (a : CaseSnapshot)
      (update : CaseUpdate) : LastTold before (earlier ++ [(a, some update)])
        (.ok (some update.event))

theorem LastTold.cons {before after last : CaseStore.LastRun} {a : CaseSnapshot}
    {told : Option CaseUpdate} {asked : List (CaseSnapshot × Option CaseUpdate)}
    (hfirst : LastTold before [(a, told)] after) (h : LastTold after asked last) :
    LastTold before ((a, told) :: asked) last := by
  cases h with
  | unasked => exact hfirst
  | failed earlier b e => exact .failed ((a, told) :: earlier) b e
  | update earlier b update => exact .update ((a, told) :: earlier) b update

/-- A question that calls for action is answered with an update or not at all. -/
theorem lastTold_of_runNoted (hd : detail.disposition.isActionable = true) {a : CaseSnapshot}
    {before after : CaseStore.LastRun} {told : Option CaseUpdate}
    (h : Run (CaseStore.runNoted (Reconcile.mutation services.collaborators settings message detail)
      a) (before, s) told (after, t)) : LastTold before [(a, told)] after ∧ LookedUp s t := by
  obtain ⟨decided, hm, rfl, rfl⟩ := CaseStore.run_of_runNoted h
  have hlooked := Reconcile.mutation_keeps settings message detail services.consults a s _ t hm
  refine ⟨?_, hlooked⟩
  cases decided with
  | error e => exact .failed [] a e
  | ok answer =>
    cases answer with
    | none => exact absurd rfl (Reconcile.mutation_ne_none hd hm)
    | some update => exact .update [] a update

theorem lastTold_of_hold (hd : detail.disposition.isActionable = true) {dialogue : Dialogue}
    {before after : CaseStore.LastRun}
    {end_ : List (CaseSnapshot × Option CaseUpdate) × Except StoreError (Option CaseSnapshot)}
    (h : Run (dialogue.hold (CaseStore.runNoted
      (Reconcile.mutation services.collaborators settings message detail))) (before, s) end_
        (after, t)) : LastTold before end_.1 after ∧ LookedUp s t := by
  -- What the first question came to is where the rest of the dialogue starts from.
  induction dialogue generalizing before s end_ with
  | ends answer =>
    obtain ⟨rfl, ht⟩ := Runs.of_pure h
    obtain ⟨rfl, rfl⟩ := Prod.mk.inj ht
    exact ⟨.unasked, refl_of LookedUp _⟩
  | asks a next ih =>
    obtain ⟨told, ⟨middle, u⟩, hq, hrest⟩ := Runs.of_bind h
    obtain ⟨rest, ⟨last, v⟩, hnext, hp⟩ := Runs.of_bind hrest
    obtain ⟨rfl, hv⟩ := Runs.of_pure hp
    obtain ⟨rfl, rfl⟩ := Prod.mk.inj hv
    obtain ⟨hfirst, hsu⟩ := lastTold_of_runNoted hd hq
    obtain ⟨hlast, hut⟩ := ih told hnext
    exact ⟨.cons hfirst hlast, trans_of LookedUp hsu hut⟩

end HearingSync
