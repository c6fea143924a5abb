import Mathlib.Data.List.ReduceOption
import HearingSync.Proofs.Case.Hearings
import HearingSync.Proofs.CaseServer.Acceptance
import HearingSync.Proofs.Http.Judicial
import HearingSync.Proofs.Json.Reading
import HearingSync.Proofs.Reconcile.Services
/-!
Who sits on the panel of a listed session. Main statement: the judge is asked for and then the codes
of two members at most, up to the first lookup that fails; those who are found are seated in that
order, and the panel of the hearing is replaced if the session names anybody. Over HTTP, whoever is
seated has the code that was asked for, whatever users the service knows.
-/

namespace HearingSync

open Runs (Run)

namespace Panel

section Lookups

-- `answers v code answer w`: after `v` a lookup of the code may be answered so, and leads to `w`.
variable {ν : Type}
  (answers : ν → PersonalCode → Except ClientError (Option JudicialUser) → ν → Prop)

inductive LooksUp : ν → List PersonalCode → List (Option JudicialUser) → ν → Prop where
  | done (v : ν) : LooksUp v [] [] v
  | ask {v u w : ν} {code : PersonalCode} {codes : List PersonalCode} {found : Option JudicialUser}
      {rest : List (Option JudicialUser)} : answers v code (.ok found) u →
      LooksUp u codes rest w → LooksUp v (code :: codes) (found :: rest) w

/-- The codes are asked for in this order up to one for which the lookup fails. -/
inductive FailsAt (failed : PersonalCode) (e : ClientError) : ν → List PersonalCode → ν → Prop where
  | here {v w : ν} (codes : List PersonalCode) : answers v failed (.error e) w →
      FailsAt failed e v (failed :: codes) w
  | later {v u w : ν} {code : PersonalCode} {codes : List PersonalCode}
      {found : Option JudicialUser} : answers v code (.ok found) u →
      FailsAt failed e u codes w → FailsAt failed e v (code :: codes) w

def asked (session : ListedSession) : List PersonalCode :=
  session.judge.toList ++ session.panelMembers.take seats

inductive Sought (session : ListedSession) (v : ν) : Except ReconcileError (Option Panel) → ν → Prop
    where
  | failed (code : PersonalCode) (e : ClientError) (w : ν) :
      FailsAt answers code e v (asked session) w →
      Sought session v (.error (.lookup (.judge code) e)) w
  | found (judge members : List (Option JudicialUser)) (u w : ν) :
      LooksUp answers v session.judge.toList judge u →
      LooksUp answers u (session.panelMembers.take seats) members w →
      Sought session v (.ok (if session.judge = none ∧ session.panelMembers = [] then none
        else some ⟨judge.head?.join, members.reduceOption⟩)) w

variable {answers} {v u w : ν} {codes codes' : List PersonalCode} {code : PersonalCode}
  {e : ClientError} {found : List (Option JudicialUser)}

theorem LooksUp.failsAt (h : LooksUp answers v codes found u)
    (hfails : FailsAt answers code e u codes' w) :
    FailsAt answers code e v (codes ++ codes') w := by
  induction h with
  | done v => exact hfails
  | ask h _ ih => exact .later h (ih hfails)

end Lookups

section Runs

variable {m : Type → Type} [Monad m] [LawfulMonad m] {σ ν : Type} [Runs m σ]
  {c : Collaborators m} {view : σ → ν} {s t : σ}
  {answers : ν → PersonalCode → Except ClientError (Option JudicialUser) → ν → Prop}
  (hnote : Quiet view c.note)
  (hjudge : ∀ {code s answer t}, Run (c.reference.judge? code).run s answer t →
    answers (view s) code answer (view t))
include hnote hjudge

theorem answered_of_resolveMember {code : PersonalCode}
    {r : Except ReconcileError (Option JudicialUser)}
    (h : Run (resolveMember c.reference.judge? c.note code).run s r t) :
    ∃ answer, answers (view s) code answer (view t) ∧
      r = answer.mapError (.lookup (.judge code)) := by
  unfold resolveMember at h
  rcases h.of_exceptBind with ⟨e, hasked, rfl⟩ | ⟨found, u, hasked, h⟩
  · obtain ⟨answer, hasked, hr⟩ := hasked.of_adapt
    exact ⟨answer, hjudge hasked, hr⟩
  obtain ⟨answer, hasked, hfound⟩ := hasked.of_adapt
  obtain ⟨rfl, ht⟩ : r = .ok found ∧ view t = view u := by
    by_cases hn : found.isNone = true
    · rw [if_pos hn] at h
      exact Reconcile.run_note_pure hnote h
    · rw [if_neg hn] at h
      obtain ⟨hr, rfl⟩ := h.of_exceptPure
      exact ⟨hr, rfl⟩
  exact ⟨answer, ht ▸ hjudge hasked, hfound⟩

/-- The users that are found keep the order of their codes. -/
theorem lookedUp_of_resolveMembers {codes : List PersonalCode}
    {r : Except ReconcileError (List JudicialUser)}
    (h : Run (resolveMembers c.reference.judge? c.note codes).run s r t) :
    (∃ code e, FailsAt answers code e (view s) codes (view t) ∧
      r = .error (.lookup (.judge code) e)) ∨
    ∃ found, LooksUp answers (view s) codes found (view t) ∧ r = .ok found.reduceOption := by
  induction codes generalizing s r with
  | nil =>
    obtain ⟨rfl, rfl⟩ := h.of_exceptPure
    exact .inr ⟨[], .done _, rfl⟩
  | cons code codes ih =>
    rcases h.of_exceptBind with ⟨e, hfirst, rfl⟩ | ⟨found, u, hfirst, h⟩
    · obtain ⟨answer, hanswer, he⟩ := answered_of_resolveMember hnote hjudge hfirst
      cases answer with
      | ok found => cases he
      | error cause => cases he; exact .inl ⟨code, cause, .here codes hanswer, rfl⟩
    obtain ⟨answer, hanswer, hok⟩ := answered_of_resolveMember hnote hjudge hfirst
    cases answer with
    | error cause => cases hok
    | ok found' =>
      cases hok
      rcases h.of_exceptBind with ⟨e, hrest, rfl⟩ | ⟨users, u', hrest, h⟩
      · rcases ih hrest with ⟨code', e', hfails, he⟩ | ⟨rest, -, he⟩
        · cases he
          exact .inl ⟨code', e', .later hanswer hfails, rfl⟩
        · cases he
      · obtain ⟨rfl, rfl⟩ := h.of_exceptPure
        rcases ih hrest with ⟨code', e', -, he⟩ | ⟨rest, hlook, hrest⟩
        · cases he
        · cases hrest
          refine .inr ⟨found :: rest, .ask hanswer hlook, ?_⟩
          cases found <;> rfl

theorem lookedUp_of_panel {codes : List PersonalCode} {assignedTo : Option JudicialUser}
    {r : Except ReconcileError (Option Panel)}
    (h : Run (do
      let members ← resolveMembers c.reference.judge? c.note codes
      return some ⟨assignedTo, members⟩ : ExceptT ReconcileError m (Option Panel)).run s r t) :
    (∃ code e, FailsAt answers code e (view s) codes (view t) ∧
      r = .error (.lookup (.judge code) e)) ∨
    ∃ found, LooksUp answers (view s) codes found (view t) ∧
      r = .ok (some ⟨assignedTo, found.reduceOption⟩) := by
  rcases h.of_exceptBind with ⟨e, hmembers, rfl⟩ | ⟨users, u, hmembers, h⟩
  · rcases lookedUp_of_resolveMembers hnote hjudge hmembers with ⟨code, e', hfails, he⟩ | ⟨_, -, he⟩
    · cases he
      exact .inl ⟨code, e', hfails, rfl⟩
    · cases he
  · obtain ⟨rfl, rfl⟩ := h.of_exceptPure
    rcases lookedUp_of_resolveMembers hnote hjudge hmembers with ⟨_, _, -, he⟩ | ⟨found, hlook, hu⟩
    · cases he
    · cases hu
      exact .inr ⟨found, hlook, rfl⟩

/-- The part of `resolve` that follows the lookup of the judge. -/
theorem lookedUp_of_seats {session : ListedSession} {assignedTo : Option JudicialUser}
    {r : Except ReconcileError (Option Panel)}
    (h : Run (do
      if session.panelMembers.length > seats then
        c.note (.log .warn "more panel members than seats, extra members not recorded")
      let members ← resolveMembers c.reference.judge? c.note (session.panelMembers.take seats)
      return some ⟨assignedTo, members⟩ : ExceptT ReconcileError m (Option Panel)).run s r t) :
    (∃ code e, FailsAt answers code e (view s) (session.panelMembers.take seats) (view t) ∧
      r = .error (.lookup (.judge code) e)) ∨
    ∃ found, LooksUp answers (view s) (session.panelMembers.take seats) found (view t) ∧
      r = .ok (some ⟨assignedTo, found.reduceOption⟩) := by
  by_cases hl : session.panelMembers.length > seats
  · rw [if_pos hl] at h
    obtain ⟨u, hu, h⟩ := Reconcile.run_note_bind hnote h
    exact hu ▸ lookedUp_of_panel hnote hjudge h
  · rw [if_neg hl] at h
    exact lookedUp_of_panel hnote hjudge h

theorem sought_of_resolve {session : ListedSession} {r : Except ReconcileError (Option Panel)}
    (h : Run (resolve c.reference.judge? c.note session).run s r t) :
    Sought answers session (view s) r (view t) := by
  unfold resolve at h
  by_cases hn : session.judge.isNone = true ∧ session.panelMembers.isEmpty = true
  · rw [if_pos hn] at h
    obtain ⟨rfl, rfl⟩ := h.of_exceptPure
    have hnobody : session.judge = none ∧ session.panelMembers = [] :=
      ⟨Option.isNone_iff_eq_none.mp hn.1, List.isEmpty_iff.mp hn.2⟩
    have hjudge : LooksUp answers (view t) session.judge.toList [] (view t) := by
      rw [hnobody.1]
      exact .done _
    have hmembers : LooksUp answers (view t) (session.panelMembers.take seats) [] (view t) := by
      rw [hnobody.2]
      exact .done _
    have hfound := Sought.found [] [] (view t) (view t) hjudge hmembers
    rwa [if_pos hnobody] at hfound
  rw [if_neg hn] at h
  have hsomebody : ¬(session.judge = none ∧ session.panelMembers = []) := by
    simpa using hn
  have hseated {judge members : List (Option JudicialUser)} {u w : ν}
      (hjudge : LooksUp answers (view s) session.judge.toList judge u)
      (hmembers : LooksUp answers u (session.panelMembers.take seats) members w) :
      Sought answers session (view s) (.ok (some ⟨judge.head?.join, members.reduceOption⟩)) w := by
    have hfound := Sought.found judge members u w hjudge hmembers
    rwa [if_neg hsomebody] at hfound
  cases hj : session.judge with
  | none =>
    rw [hj] at h
    rcases h.of_exceptBind with ⟨e, hpure, -⟩ | ⟨assignedTo, u, hpure, h⟩
    · cases hpure.of_exceptPure.1
    obtain ⟨hnone, rfl⟩ := hpure.of_exceptPure
    cases hnone
    rcases lookedUp_of_seats hnote hjudge h with ⟨code, e, hfails, rfl⟩ | ⟨found, hlook, rfl⟩
    · exact .failed code e _ (by simpa [asked, hj] using hfails)
    · have hnobody : LooksUp answers (view u) session.judge.toList [] (view u) := by
        rw [hj]
        exact .done _
      exact hseated hnobody hlook
  | some code =>
    rw [hj] at h
    rcases h.of_exceptBind with ⟨e, hfirst, rfl⟩ | ⟨assignedTo, u, hfirst, h⟩
    · obtain ⟨answer, hanswer, he⟩ := answered_of_resolveMember hnote hjudge hfirst
      cases answer with
      | ok found => cases he
      | error cause =>
        cases he
        exact .failed code cause _ (by rw [asked, hj]; exact .here _ hanswer)
    obtain ⟨answer, hanswer, hok⟩ := answered_of_resolveMember hnote hjudge hfirst
    cases answer with
    | error cause => cases hok
    | ok found =>
      cases hok
      have hfirst : LooksUp answers (view s) session.judge.toList [assignedTo] (view u) := by
        rw [hj]
        exact .ask hanswer (.done _)
      rcases lookedUp_of_seats hnote hjudge h with ⟨code', e, hfails, rfl⟩ | ⟨members, hlook, rfl⟩
      · exact .failed code' e _ (hfirst.failsAt hfails)
      · exact hseated hfirst hlook

end Runs

/-- Whoever a lookup finds has the code that was asked for. -/
def Bears {ν : Type} (_ : ν) (code : PersonalCode)
    (answer : Except ClientError (Option JudicialUser)) (_ : ν) : Prop :=
  ∀ user, answer = .ok (some user) → user.personalCode = code

section Bears

variable {ν : Type} {v w : ν} {codes : List PersonalCode} {found : List (Option JudicialUser)}
  {session : ListedSession} {panel : Panel}

theorem LooksUp.sublist (h : LooksUp Bears v codes found w) :
    (found.reduceOption.map (·.personalCode)).Sublist codes := by
  induction h with
  | done v => exact .slnil
  | @ask _ _ _ code codes found rest hfound _ ih =>
    cases found with
    | none => exact ih.cons code
    | some user =>
      have hcode : user.personalCode = code := hfound user rfl
      rw [List.reduceOption_cons_of_some, List.map_cons, hcode]
      exact ih.cons_cons code

theorem LooksUp.judge {user : JudicialUser} {judge : Option PersonalCode}
    (h : LooksUp Bears v judge.toList found w) (huser : found.head?.join = some user) :
    judge = some user.personalCode := by
  cases judge with
  | none =>
    cases h
    cases huser
  | some code =>
    cases h with
    | ask hfound hrest =>
      cases hrest
      rw [hfound user (congrArg Except.ok huser)]

theorem Sought.bears {r : Except ReconcileError (Option Panel)}
    (h : Sought Bears session v r w) (hr : r = .ok (some panel)) :
    (∀ user, panel.assignedTo = some user → session.judge = some user.personalCode) ∧
    (panel.members.map (·.personalCode)).Sublist (session.panelMembers.take seats) := by
  cases h with
  | failed => cases hr
  | found judge members u w hjudge hmembers =>
    by_cases hn : session.judge = none ∧ session.panelMembers = []
    · rw [if_pos hn] at hr
      cases hr
    · rw [if_neg hn] at hr
      cases hr
      exact ⟨fun user => hjudge.judge, hmembers.sublist⟩

end Bears

end Panel

def Hearing.panelOf (hearings : List Hearing) (id : HearingId) : Option Panel :=
  (Hearing.find? hearings id).bind Hearing.panel

namespace ListedUpdate

section Runs

variable {m : Type → Type} [Monad m] [LawfulMonad m] {σ : Type} [Runs m σ] {c : Collaborators m}
  {s u : σ} {panelEnabled : Bool} {caseId : CaseId} {detail : HearingDetail}
  {hearings : List Hearing} {previous : WorkBasket} {session : ListedSession}

/-- A panel takes the place of the stored one, and no panel leaves it. -/
theorem panelOf_of (id : HearingId) (session : ListedSession) (venue : Venue)
    (panel : Option Panel) (now : Instant) (hearings : List Hearing) (previous : WorkBasket) :
    Hearing.panelOf (ListedUpdate.of id session venue panel now hearings previous).hearings id =
      panel.or (Hearing.panelOf hearings id) := by
  have hkeeps : Hearing.KeepsId (·.withSession session venue panel) := fun _ => rfl
  rw [Hearing.panelOf, of, Hearing.find?_upsert hkeeps, if_pos rfl, Hearing.panelOf]
  cases Hearing.find? hearings id <;> cases panel <;> rfl

variable (c panelEnabled) in
def panel? (session : ListedSession) : ExceptT ReconcileError m (Option Panel) :=
  if panelEnabled then Panel.resolve c.reference.judge? c.note session else pure none

/-- The venue is asked for first, then the panel, and the clock is read at the end. -/
theorem listed_of_resolve (hsession : detail.singleSession = .ok session)
    {r : Except ReconcileError ListedUpdate}
    (h : Run (resolve c.reference c.note panelEnabled caseId detail hearings previous).run s r u) :
    (∃ answer t, Run (c.reference.venue? session.venue).run s answer t ∧
      (∀ venue, answer ≠ .ok (some venue)) ∧ ∃ e, r = .error e) ∨
    ∃ venue t, Run (c.reference.venue? session.venue).run s (.ok (some venue)) t ∧
      ((∃ e, Run (panel? c panelEnabled session).run t (.error e) u ∧ r = .error e) ∨
      ∃ panel v now, Run (panel? c panelEnabled session).run t (.ok panel) v ∧
        Run c.reference.now v now u ∧
        r = .ok (of detail.hearingId session venue panel now hearings previous)) := by
  unfold resolve at h
  rw [hsession] at h
  rcases h.of_exceptBind with ⟨e, hvenue, rfl⟩ | ⟨found, t, hvenue, h⟩
  · obtain ⟨answer, hvenue, he⟩ := hvenue.of_adapt
    refine .inl ⟨answer, u, hvenue, ?_, e, rfl⟩
    rintro venue rfl
    cases he
  obtain ⟨answer, hvenue, hok⟩ := hvenue.of_adapt
  obtain rfl : answer = .ok found := by
    cases answer with
    | error e => cases hok
    | ok found' => cases hok; rfl
  cases found with
  | none =>
    obtain ⟨rfl, -⟩ := h.of_throw
    refine .inl ⟨_, t, hvenue, ?_, _, rfl⟩
    rintro venue hnone
    cases hnone
  | some venue =>
    refine .inr ⟨venue, t, hvenue, ?_⟩
    have hlisted {x : ExceptT ReconcileError m (Option Panel)} (h : Run (do
        let panel ← x
        let now ← c.reference.now
        return of detail.hearingId session venue panel now hearings previous :
          ExceptT ReconcileError m ListedUpdate).run t r u) :
        (∃ e, Run x.run t (.error e) u ∧ r = .error e) ∨
        ∃ panel v now, Run x.run t (.ok panel) v ∧ Run c.reference.now v now u ∧
          r = .ok (of detail.hearingId session venue panel now hearings previous) := by
      rcases h.of_exceptBind with ⟨e, hpanel, rfl⟩ | ⟨panel, v, hpanel, h⟩
      · exact .inl ⟨e, hpanel, rfl⟩
      rcases h.of_exceptBind with ⟨e, hclock, rfl⟩ | ⟨now, w, hclock, h⟩
      · obtain ⟨_, -, he⟩ := hclock.of_exceptLift
        cases he
      obtain ⟨rfl, rfl⟩ := h.of_exceptPure
      obtain ⟨now', hclock, hnow⟩ := hclock.of_exceptLift
      cases hnow
      exact .inr ⟨panel, v, now, hpanel, hclock, rfl⟩
    cases panelEnabled with
    | false => exact hlisted h
    | true => exact hlisted h

end Runs

end ListedUpdate

/-- What a lookup of a code is answered with, and that it is put down. -/
def Services.Judges (services : Services) (calls : List Call) (code : PersonalCode)
    (answer : Except ClientError (Option JudicialUser)) (after : List Call) : Prop :=
  answer = services.judge? calls code ∧ after = calls ++ [.judge code answer]

theorem Services.judges_of_run {services : Services} {code : PersonalCode}
    {s t : List Call × Unit} {answer : Except ClientError (Option JudicialUser)}
    (h : Run (services.collaborators.reference.judge? code).run s answer t) :
    services.Judges s.1 code answer t.1 := run_call h

theorem JudicialRecord.personalCode_of_find? {records : List JudicialRecord} {code : PersonalCode}
    {user : JudicialUser} (h : find? records code = some user) : user.personalCode = code := by
  obtain ⟨r, hr, rfl⟩ := Option.map_eq_some_iff.mp h
  have htrim : Text.trim r.personalCode = code.text := by simpa using List.find?_some hr
  rw [JudicialRecord.user, Identifier.ofText?_eq_some_iff.mpr htrim]
  rfl

theorem Client.personalCode_of_judgedOf {code : PersonalCode} {sent : Except String Response}
    {user : JudicialUser} (h : judgedOf code sent = .ok (some user)) :
    user.personalCode = code := by
  cases sent with
  | error cause => cases h
  | ok r =>
    rw [judgedOf] at h
    split at h
    · cases h
    · obtain ⟨records, -, hfound⟩ := exists_of_map_eq_ok h
      exact JudicialRecord.personalCode_of_find? hfound

theorem Client.bears_of_judge {c : Client} {code : PersonalCode} {s t : List Turn}
    {answer : Except ClientError (Option JudicialUser)}
    (h : Run (c.judge? code).run s answer t) : Panel.Bears () code answer () := by
  rintro user rfl
  obtain ⟨u, -, hyields⟩ := h
  by_cases hruntime : c.hasRuntime = true
  · rw [run_judge hruntime] at hyields
    obtain ⟨sent, -, hanswer⟩ := Exchange.yields_return hyields
    exact personalCode_of_judgedOf hanswer.symm
  · rw [run_judge_of_noRuntime hruntime] at hyields
    cases (Exchange.yields_done hyields).2

theorem Clients.bears_of_judge {clients : Clients} {venues : VenueTable} {now : Instant}
    {code : PersonalCode} {s t : List Note × List Turn}
    {answer : Except ClientError (Option JudicialUser)}
    (h : Run ((clients.collaborators venues now).reference.judge? code).run s answer t) :
    Panel.Bears () code answer () :=
  Client.bears_of_judge (Runs.Run.of_stateLift h).1

namespace ListedUpdate

open Panel (Sought)

variable {panelEnabled : Bool} {caseId : CaseId} {detail : HearingDetail}
  {hearings : List Hearing} {previous : WorkBasket} {session : ListedSession}

/-- What comes of listing a hearing whose venue is found, and which calls there are then. -/
structure SeatedBy (services : Services) (panelEnabled : Bool) (detail : HearingDetail)
    (hearings : List Hearing) (session : ListedSession) (calls : List Call)
    (result : Except ReconcileError ListedUpdate) (after : List Call) : Prop where
  unasked : panelEnabled = false → ∃ update now, result = .ok update ∧ update.panel = none ∧
    after = calls ++ [.clock now]
  sought : panelEnabled = true → ∃ sought looked,
    Sought services.Judges session calls sought looked ∧
    (∀ e, sought = .error e → result = .error e ∧ after = looked) ∧
    ∀ panel, sought = .ok panel → ∃ update now, result = .ok update ∧ update.panel = panel ∧
      after = looked ++ [.clock now]
  stored : ∀ update, result = .ok update → Hearing.panelOf update.hearings detail.hearingId =
    update.panel.or (Hearing.panelOf hearings detail.hearingId)

theorem seatedBy_of_services {services : Services} (hsession : detail.singleSession = .ok session)
    {venue : Venue} {calls after : List Call} {result : Except ReconcileError ListedUpdate}
    (hvenue : services.venue? calls session.venue = .ok (some venue))
    (h : (resolve services.collaborators.reference services.collaborators.note panelEnabled caseId
      detail hearings previous).run.run calls = (result, after)) :
    SeatedBy services panelEnabled detail hearings session
      (calls ++ [.venue session.venue (.ok (some venue))]) result after := by
  have hrun : Run (resolve services.collaborators.reference services.collaborators.note panelEnabled
      caseId detail hearings previous).run (calls, ()) result (after, ()) := h.symm
  rcases listed_of_resolve hsession hrun with
    ⟨answer, t, hasked, hno, -⟩ | ⟨venue', t, hasked, hlisted⟩
  · exact absurd ((run_call hasked).1.trans hvenue) (hno venue)
  obtain ⟨hsame, ht⟩ := run_call hasked
  obtain rfl : venue' = venue := by simpa using hsame.trans hvenue
  rcases hlisted with ⟨e, hpanel, rfl⟩ | ⟨panel, v, now, hpanel, hclock, rfl⟩
  · refine ⟨?_, ?_, ?_⟩
    · rintro rfl
      cases (Runs.Run.of_exceptPure hpanel).1
    · rintro rfl
      have hsought := Panel.sought_of_resolve Services.quiet Services.judges_of_run hpanel
      rw [ht] at hsought
      refine ⟨.error e, after, hsought, ?_, ?_⟩
      · rintro _ ⟨⟩
        exact ⟨rfl, rfl⟩
      · intro panel hok
        cases hok
    · intro update hok
      cases hok
  · have hafter : after = v.1 ++ [.clock now] := (run_call hclock).2
    refine ⟨?_, ?_, ?_⟩
    · rintro rfl
      obtain ⟨hnone, rfl⟩ := Runs.Run.of_exceptPure hpanel
      cases hnone
      exact ⟨_, now, rfl, rfl, by rw [hafter, ht]⟩
    · rintro rfl
      have hsought := Panel.sought_of_resolve Services.quiet Services.judges_of_run hpanel
      rw [ht] at hsought
      refine ⟨.ok panel, v.1, hsought, ?_, ?_⟩
      · intro e he
        cases he
      · rintro _ ⟨⟩
        exact ⟨_, now, rfl, rfl, hafter⟩
    · rintro _ ⟨⟩
      exact panelOf_of detail.hearingId session venue' panel now hearings previous

theorem bears_of_clients {clients : Clients} {venues : VenueTable} {now : Instant}
    (hsession : detail.singleSession = .ok session) {notes notes' : List Note} {script : List Reply}
    {requests : List Request} {update : ListedUpdate}
    (h : ((resolve (clients.collaborators venues now).reference
      (clients.collaborators venues now).note panelEnabled caseId detail hearings
      previous).run.run notes).run script = ((.ok update, notes'), requests)) {panel : Panel}
    (hpanel : update.panel = some panel) :
    (∀ user, panel.assignedTo = some user → session.judge = some user.personalCode) ∧
    (panel.members.map (·.personalCode)).Sublist (session.panelMembers.take Panel.seats) := by
  have hrun : Run (resolve (clients.collaborators venues now).reference
      (clients.collaborators venues now).note panelEnabled caseId detail hearings previous).run
      (notes, []) (.ok update) (notes', _) :=
    ⟨_, rfl, h ▸ Exchange.yields_transcript _ script⟩
  rcases listed_of_resolve hsession hrun with ⟨_, _, -, -, e, he⟩ | ⟨venue, t, -, hlisted⟩
  · cases he
  rcases hlisted with ⟨e, -, he⟩ | ⟨panel', v, now', hasked, -, hu⟩
  · cases he
  cases hu
  cases panelEnabled with
  | false =>
    cases (Runs.Run.of_exceptPure hasked).1
    cases hpanel
  | true =>
    have hquiet : Quiet (fun _ => ()) (clients.collaborators venues now).note :=
      fun _ _ _ _ _ => rfl
    have hsought : Panel.Sought Panel.Bears session () (.ok panel') () :=
      Panel.sought_of_resolve hquiet Clients.bears_of_judge hasked
    exact hsought.bears (congrArg Except.ok hpanel)

/-- For a session whose venue is found the judge is asked for, where panels are on, and then the
codes of two members at most, in their order, up to the first lookup that fails. A panel that comes
of it takes the place of the stored one. Over HTTP whoever is seated has the code that was asked
for. -/
theorem panels_seated (panelEnabled : Bool) (caseId : CaseId) (detail : HearingDetail)
    (hearings : List Hearing) (previous : WorkBasket) (session : ListedSession)
    (hsession : detail.singleSession = .ok session) :
    (∀ (services : Services) (venue : Venue) (calls after : List Call)
        (result : Except ReconcileError ListedUpdate),
      services.venue? calls session.venue = .ok (some venue) →
      (resolve services.collaborators.reference services.collaborators.note panelEnabled caseId
        detail hearings previous).run.run calls = (result, after) →
      SeatedBy services panelEnabled detail hearings session
        (calls ++ [.venue session.venue (.ok (some venue))]) result after) ∧
    ∀ (clients : Clients) (venues : VenueTable) (now : Instant) (notes notes' : List Note)
        (script : List Reply) (requests : List Request) (update : ListedUpdate) (panel : Panel),
      ((resolve (clients.collaborators venues now).reference
        (clients.collaborators venues now).note panelEnabled caseId detail hearings
        previous).run.run notes).run script = ((.ok update, notes'), requests) →
      update.panel = some panel →
      (∀ user, panel.assignedTo = some user → session.judge = some user.personalCode) ∧
      (panel.members.map (·.personalCode)).Sublist (session.panelMembers.take Panel.seats) := by
  refine ⟨?_, ?_⟩
  · intro services venue calls after result hvenue h
    exact seatedBy_of_services hsession hvenue h
  · intro clients venues now notes notes' script requests update panel h hpanel
    exact bears_of_clients hsession h hpanel

section Crowded

def crowdedSession : ListedSession where
  start := Clients.afterHearing
  finish := ⟨Clients.afterHearing.utc.addSeconds 3600⟩
  venue := ⟨"701411", by decide, by decide⟩
  judge := some ⟨"P0", by decide, by decide⟩
  panelMembers := [⟨"P2", by decide, by decide⟩, ⟨"P3", by decide, by decide⟩,
    ⟨"P4", by decide, by decide⟩]
  channel := none

def crowdedHearing : HearingDetail where
  hearingId := Clients.failedHearing.hearingId
  status := .listed
  listing := some .fixed
  reasons := []
  sessions := [
    { start := some crowdedSession.start, finish := some crowdedSession.finish
      venue := some crowdedSession.venue, judge := crowdedSession.judge
      panelMembers := crowdedSession.panelMembers, channel := none }]

def onlyRoom : Venue := ⟨"12", "Leeds", none⟩

def thirdMember : JudicialUser := ⟨"idam-P3", ⟨"P3", by decide, by decide⟩, "Member Three"⟩

def sparseServices : Services where
  hearing _ id := .error (.invalidDetail id.text "")
  venue? _ _ := .ok (some onlyRoom)
  judge? _ code := .ok (if code = thirdMember.personalCode then some thirdMember else none)
  now _ := crowdedSession.start
  fetch _ id := .error (.notFound id)
  submit _ base _ := .error (.notFound base.data.caseId)
  transact _ id := .ends (.error (.notFound id))
  storeName := ""

def crowdedCase : CaseId := Clients.failedHearing.caseId

def crowdedTable : VenueTable := ⟨[(crowdedSession.venue, onlyRoom)]⟩

def crowdedOnline : Collaborators Online :=
  Clients.plainClients.collaborators crowdedTable crowdedSession.start

/-- The service answers with somebody else before the judge. -/
def twoUsers : String :=
  "[\x7b\"sidam_id\":\"idam-P9\",\"personal_code\":\"P9\"\x7d,"
    ++ "\x7b\"sidam_id\":\"idam-P0\",\"personal_code\":\" P0 \"\x7d]"

def onlineListing : (Except ReconcileError ListedUpdate × List Note) × List Request :=
  ((resolve crowdedOnline.reference crowdedOnline.note true crowdedCase crowdedHearing []
    {}).run.run []).run [.response ⟨200, twoUsers⟩, .response ⟨404, ""⟩, .response ⟨404, ""⟩]

theorem onlineListing_panel : onlineListing.1.1.toOption.map
    (·.panel.map fun panel => (panel.assignedTo.map (·.idamId), panel.members)) =
      some (some (some "idam-P0", [])) := by decide +kernel

theorem panels_seated_crowded :
    crowdedHearing.singleSession = .ok crowdedSession ∧
    (∃ update, (resolve sparseServices.collaborators.reference sparseServices.collaborators.note
        true crowdedCase crowdedHearing [] {}).run.run [] = (.ok update,
          [.venue crowdedSession.venue (.ok (some onlyRoom)),
            .judge ⟨"P0", by decide, by decide⟩ (.ok none),
            .judge ⟨"P2", by decide, by decide⟩ (.ok none),
            .judge ⟨"P3", by decide, by decide⟩ (.ok (some thirdMember)),
            .clock crowdedSession.start]) ∧
      Hearing.panelOf update.hearings crowdedHearing.hearingId = some ⟨none, [thirdMember]⟩) ∧
    ∃ update panel judge, onlineListing.1.1 = .ok update ∧ update.panel = some panel ∧
      panel.assignedTo = some judge ∧ crowdedSession.judge = some judge.personalCode := by
  have hsession : crowdedHearing.singleSession = .ok crowdedSession := rfl
  obtain ⟨hservices, hclients⟩ :=
    panels_seated true crowdedCase crowdedHearing [] {} crowdedSession hsession
  refine ⟨hsession, ⟨_, rfl, ?_⟩, ?_⟩
  · exact (hservices sparseServices onlyRoom [] _ _ rfl rfl).stored _ rfl
  · have hpanel := onlineListing_panel
    have hrun : onlineListing = ((onlineListing.1.1, onlineListing.1.2), onlineListing.2) := rfl
    cases hu : onlineListing.1.1 with
    | error e => rw [hu] at hpanel; cases hpanel
    | ok update =>
      rw [hu] at hpanel hrun
      cases hp : update.panel with
      | none => simp [Except.toOption, hp] at hpanel
      | some panel =>
        obtain ⟨judge, hjudge⟩ : ∃ judge, panel.assignedTo = some judge := by
          cases ha : panel.assignedTo with
          | none => simp [Except.toOption, hp, ha] at hpanel
          | some judge => exact ⟨judge, rfl⟩
        obtain ⟨hasked, -⟩ := hclients Clients.plainClients crowdedTable crowdedSession.start [] _ _
          _ update panel hrun hp
        exact ⟨update, panel, judge, rfl, hp, hjudge, hasked judge hjudge⟩

end Crowded

end ListedUpdate

end HearingSync
