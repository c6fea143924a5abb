import HearingSync.Proofs.CaseServer.Requests
/-!
Calls of the case store by clients: reading and submitting, and transactions that start again while
their tokens are stale. Main statement: such a call has at most one event taken, computed from
exactly the snapshot that it goes on top of, and its result says whether and what was installed.
-/

namespace HearingSync

/-- A call on one case. Its question may remember the snapshots that it was asked on before. -/
structure RemoteCall where
  client : Client
  strategy : WriteStrategy
  caseId : CaseId
  question : List CaseSnapshot → CaseSnapshot → Option CaseUpdate
  keepsCase : ∀ earlier a update, question earlier a = some update →
    update.data.caseId = a.data.caseId

namespace RemoteCall

def ask (w : RemoteCall) (a : CaseSnapshot) :
    StateT (List CaseSnapshot) Exchange (Option CaseUpdate) := do
  let earlier ← get
  set (earlier ++ [a])
  return w.question earlier a

def readAndSubmit (w : RemoteCall) :
    ExceptT StoreError (StateT (List CaseSnapshot) Exchange) (Option CaseSnapshot) := do
  let store := CaseServer.caseStore w.client
  let a ← store.fetch w.caseId
  match ← w.ask a with
  | none => return none
  | some update => return some (← store.submit a update)

abbrev Ended := Except StoreError (Option CaseSnapshot) × List CaseSnapshot

def program (w : RemoteCall) : Exchange Ended :=
  match w.strategy with
  | .callback =>
    ((CaseServer.caseStore (m := Exchange) w.client).transact w.caseId w.ask).run.run []
  | .readModifyWrite => w.readAndSubmit.run.run []

/-- The event is, as it looks on the wire, what the question had for the snapshot that it was asked
on last, and it goes on top of that snapshot. -/
def Computes (w : RemoteCall) (asked : List CaseSnapshot) (e : Accepted) : Prop :=
  ∃ earlier update, asked = earlier ++ [e.before] ∧
    w.question earlier e.before = some update ∧ e.Carries w.caseId e.before update

/-- What the result and the questions of a call say of the event that it had taken. -/
def Accounts (w : RemoteCall) (own : Option Accepted) (ended : Ended) : Prop :=
  own.map Accepted.installed = ended.1.toOption.join ∧ ∀ e, own = some e → w.Computes ended.2 e

variable {route : Request → Option Endpoint} {w : RemoteCall} {s : Registry} {a : CaseSnapshot}
  {asked earlier : List CaseSnapshot} {update : CaseUpdate} {own : Option Accepted}

theorem Computes.caseId {e : Accepted} (h : w.Computes asked e)
    (hbefore : e.before.data.caseId = e.caseId) : e.update.data.caseId = e.caseId := by
  obtain ⟨earlier, update, -, hq, -, -, hencode⟩ := h
  rw [CaseUpdate.caseId_of_encode hencode, w.keepsCase earlier e.before update hq, hbefore]

theorem computes_of_carries {e : Accepted} (hq : w.question earlier a = some update)
    (h : e.Carries w.caseId a update) : w.Computes (earlier ++ [a]) e := by
  obtain ⟨hid, rfl, hencode⟩ := h
  exact ⟨earlier, update, rfl, hq, hid, rfl, hencode⟩

theorem accounts_none {result : Except StoreError (Option CaseSnapshot)}
    (h : result.toOption.join = none) : w.Accounts none (result, asked) := by
  refine ⟨h.symm, ?_⟩
  intro e he
  cases he

theorem run_ask (a : CaseSnapshot) (earlier : List CaseSnapshot) :
    (w.ask a).run earlier = pure (w.question earlier a, earlier ++ [a]) := rfl

def Attempted (w : RemoteCall) (own : Option Accepted)
    (p : CaseServer.Attempt × List CaseSnapshot) : Prop :=
  match p.1 with
  | .ended answer => w.Accounts own (answer, p.2)
  | .stale _ => own = none

theorem attempted_of_posting (hq : w.question earlier a = some update)
    {posted : Except StoreError CaseSnapshot}
    (h : CaseServer.Posting w.caseId a update own posted) :
    w.Attempted own (.ofPost posted, earlier ++ [a]) := by
  obtain ⟨hown, hcarries⟩ := h
  have hcomputes (e : Accepted) (he : own = some e) : w.Computes (earlier ++ [a]) e :=
    computes_of_carries hq (hcarries e he)
  cases posted with
  | ok committed => exact ⟨hown, hcomputes⟩
  | error e =>
    have hnone : own = none := Option.map_eq_none_iff.mp hown
    cases e with
    | conflict id expected => exact hnone
    | notFound id => exact ⟨hown, hcomputes⟩
    | unavailable id reason => exact ⟨hown, hcomputes⟩
    | rejected id reason => exact ⟨hown, hcomputes⟩

/-- An attempt as two requests with the question in between. -/
theorem run_attempt (w : RemoteCall) (earlier : List CaseSnapshot) :
    (CaseServer.attempt w.client w.caseId w.ask).run earlier =
      CaseServer.issueToken w.client w.caseId >>= fun answer =>
        match answer with
        | .error e => pure (.ended (.error e), earlier)
        | .ok issued =>
          match w.question earlier issued.snapshot with
          | none => pure (.ended (.ok none), earlier ++ [issued.snapshot])
          | some update =>
            (fun posted => (CaseServer.Attempt.ofPost posted, earlier ++ [issued.snapshot])) <$>
              CaseServer.postEvent w.client w.caseId issued.snapshot.version (.token issued.token)
                update := by
  unfold CaseServer.attempt
  simp only [StateT.run_bind, StateT.run_monadLift, monadLift_self, liftM, bind_pure_comp,
    bind_map_left]
  refine bind_congr fun answer => ?_
  cases answer with
  | error e => rfl
  | ok issued =>
    simp only [StateT.run_bind, run_ask, pure_bind]
    cases w.question earlier issued.snapshot with
    | none => rfl
    | some update =>
      simp only [StateT.run_map, StateT.run_monadLift, monadLift_self, bind_pure_comp,
        Functor.map_map]

theorem ensures_attempt (h : w.client.Routed route w.caseId) (earlier : List CaseSnapshot) :
    ((CaseServer.attempt w.client w.caseId w.ask).run earlier).Ensures route
      (fun e => ∃ asked, w.Computes asked e) (fun _ => w.Attempted) s none := by
  rw [run_attempt]
  refine (CaseServer.ensures_issueToken h).bind ?_
  rintro t _ answer ⟨rfl, hissued⟩
  cases answer with
  | error e => exact Exchange.ensures_done.mpr (accounts_none rfl)
  | ok issued =>
    obtain ⟨hshown, htoken⟩ := hissued issued rfl
    cases hq : w.question earlier issued.snapshot with
    | none =>
      simp only [hq]
      exact Exchange.ensures_done.mpr (accounts_none rfl)
    | some update =>
      have honly (u b) (htu : t.Precedes u) (hb : u.get? w.caseId = some b)
          (hadmits : u.Admits w.caseId b (.token issued.token)) : b = issued.snapshot :=
        (hshown.later htu).eq_of_admits_token htu.sound (htu.issued _ htoken) hb hadmits
      have hcomputes (e : Accepted) (he : e.Carries w.caseId issued.snapshot update) :
          ∃ asked, w.Computes asked e := ⟨_, computes_of_carries hq he⟩
      have hpost := CaseServer.ensures_postEvent (s := t) h issued.snapshot.version honly hcomputes
      simp only [hq]
      refine hpost.map ?_
      intro u own posted hposted
      exact attempted_of_posting hq hposted

/-- A stale token has had no event taken, so each attempt starts like the first. -/
theorem ensures_attempts (h : w.client.Routed route w.caseId) (earlier : List CaseSnapshot)
    (again : Nat) :
    ((CaseServer.attempts w.client w.caseId w.ask again).run earlier).Ensures route
      (fun e => ∃ asked, w.Computes asked e) (fun _ => w.Accounts) s none := by
  induction again generalizing s earlier with
  | zero =>
    unfold CaseServer.attempts
    rw [StateT.run_bind]
    refine (ensures_attempt h earlier).bind ?_
    rintro t own ⟨attempted, seen⟩ hown
    cases attempted with
    | ended answer => exact Exchange.ensures_done.mpr hown
    | stale e =>
      obtain rfl : own = none := hown
      exact Exchange.ensures_done.mpr (accounts_none rfl)
  | succ n ih =>
    unfold CaseServer.attempts
    rw [StateT.run_bind]
    refine (ensures_attempt h earlier).bind ?_
    rintro t own ⟨attempted, seen⟩ hown
    cases attempted with
    | ended answer => exact Exchange.ensures_done.mpr hown
    | stale e =>
      obtain rfl : own = none := hown
      exact ih seen

theorem ensures_transact (h : w.client.Routed route w.caseId) :
    ((CaseServer.transact w.client w.caseId w.ask).run []).Ensures route
      (fun e => ∃ asked, w.Computes asked e) (fun _ => w.Accounts) s none := by
  unfold CaseServer.transact
  by_cases hrun : w.client.hasRuntime = true
  · rw [if_pos hrun]
    exact ensures_attempts h [] w.client.maxRetries
  · rw [if_neg hrun]
    exact Exchange.ensures_done.mpr (accounts_none rfl)

theorem ensures_submit (h : w.client.Routed route w.caseId) (ha : s.Shown w.caseId a)
    (hq : w.question [] a = some update) :
    (CaseServer.submit w.client a update).Ensures route (fun e => ∃ asked, w.Computes asked e)
      (fun _ => CaseServer.Posting w.caseId a update) s none := by
  unfold CaseServer.submit
  by_cases hrun : w.client.hasRuntime = true
  · simp only [if_pos hrun]
    have honly (u b) (hsu : s.Precedes u) (hb : u.get? w.caseId = some b)
        (hadmits : u.Admits w.caseId b (.version a.version)) : b = a :=
      (ha.later hsu).eq_of_admits_version hb hadmits
    have hcomputes (e : Accepted) (he : e.Carries w.caseId a update) :
        ∃ asked, w.Computes asked e := ⟨_, computes_of_carries hq he⟩
    rw [ha.1]
    exact CaseServer.ensures_postEvent h a.version honly hcomputes
  · simp only [if_neg hrun]
    exact Exchange.ensures_done.mpr (CaseServer.posting_none rfl)

/-- Reading and submitting as two requests with the question in between. -/
theorem program_of_readModifyWrite (hw : w.strategy = .readModifyWrite) :
    w.program = CaseServer.fetch w.client w.caseId >>= fun answer =>
      match answer with
      | .error e => pure (.error e, [])
      | .ok a =>
        match w.question [] a with
        | none => pure (.ok none, [a])
        | some update =>
          (fun submitted => (submitted.map some, [a])) <$> CaseServer.submit w.client a update := by
  unfold program
  rw [hw]
  simp only [readAndSubmit, CaseServer.caseStore, ExceptT.run_bind, StateT.run_bind, ExceptT.run_mk,
    liftM, StateT.run_monadLift, monadLift_self, bind_pure_comp, bind_map_left]
  refine bind_congr fun answer => ?_
  cases answer with
  | error e => rfl
  | ok a =>
    have hask : (monadLift (w.ask a) :
        ExceptT StoreError (StateT (List CaseSnapshot) Exchange) (Option CaseUpdate)).run.run [] =
          pure (Except.ok (w.question [] a), [a]) := rfl
    simp only [StateT.run_bind, hask, pure_bind]
    cases w.question [] a with
    | none => rfl
    | some update =>
      simp only [ExceptT.run_map, StateT.run_map, ExceptT.run_mk, StateT.run_monadLift,
        monadLift_self, bind_pure_comp, Functor.map_map]

theorem program_of_callback (hw : w.strategy = .callback) :
    w.program = (CaseServer.transact w.client w.caseId w.ask).run [] := by
  unfold program
  rw [hw]
  rfl

theorem ensures_program (h : w.client.Routed route w.caseId) :
    w.program.Ensures route (fun e => ∃ asked, w.Computes asked e) (fun _ => w.Accounts) s
      none := by
  cases hw : w.strategy with
  | callback =>
    rw [program_of_callback hw]
    exact ensures_transact h
  | readModifyWrite =>
    rw [program_of_readModifyWrite hw]
    refine (CaseServer.ensures_fetch h).bind ?_
    rintro t _ answer ⟨rfl, hshown⟩
    cases answer with
    | error e => exact Exchange.ensures_done.mpr (accounts_none rfl)
    | ok a =>
      cases hq : w.question [] a with
      | none =>
        simp only [hq]
        exact Exchange.ensures_done.mpr (accounts_none rfl)
      | some update =>
        simp only [hq]
        refine (ensures_submit h (hshown a rfl) hq).map ?_
        rintro u own submitted ⟨hown, hcarries⟩
        refine ⟨?_, fun e he => computes_of_carries hq (hcarries e he)⟩
        rw [hown]
        cases submitted <;> rfl

end RemoteCall

end HearingSync
