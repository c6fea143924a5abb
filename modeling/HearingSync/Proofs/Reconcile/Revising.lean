import HearingSync.Proofs.Case.Revision
import HearingSync.Proofs.Reconcile.Deciding
/-!
The mutation of a message, taken apart: lookups that do not see the case, the clock, and a change
of the case without effects. Main statement: the mutation is these three in a row.
-/

namespace HearingSync

variable {m : Type → Type} [Monad m]

inductive HearingDetail.CallsFor (d : HearingDetail) : Revision → Prop where
  | list (found : Findings) (now : Instant) : d.disposition = .listedUpdate →
      d.singleSession = .ok found.session → d.CallsFor (.list found now)
  | cancelledInListing : d.disposition = .cancelledInListing →
      d.CallsFor (.withdraw (some .cancelled))
  | ended : d.disposition = .terminalCancellation ∨ d.disposition = .failure →
      d.CallsFor (.withdraw d.status.rule.hearingStatus)

theorem HearingDetail.CallsFor.isActionable {d : HearingDetail} {r : Revision}
    (h : d.CallsFor r) : d.disposition.isActionable = true := by
  cases h with
  | list found now hd hs => rw [hd]; rfl
  | cancelledInListing hd => rw [hd]; rfl
  | ended hd => rcases hd with hd | hd <;> rw [hd] <;> rfl

/-- The change of a listed hearing takes its session, which has been found to be good. -/
theorem HearingDetail.CallsFor.session {d : HearingDetail} {r : Revision} (h : d.CallsFor r)
    (hl : d.disposition.isListedUpdate = true) : ∃ session, d.singleSession = .ok session := by
  cases h with
  | list found now hd hs => exact ⟨found.session, hs⟩
  | cancelledInListing hd => rw [hd] at hl; cases hl
  | ended hd => rcases hd with hd | hd <;> rw [hd] at hl <;> cases hl

namespace Reconcile

variable (c : Collaborators m) (s : Settings) (message : HearingMessage) (detail : HearingDetail)

def lookUp : ExceptT ReconcileError m Findings := do
  match detail.singleSession with
  | .error e => throw (.schedule e)
  | .ok session =>
    match ← (c.reference.venue? session.venue).adapt (.lookup (.venue session.venue)) with
    | none => throw (.unknownVenue message.caseId detail.hearingId session.venue)
    | some venue =>
      let panel ←
        if s.panelEnabled then Panel.resolve c.reference.judge? c.note session else pure none
      return { session, venue, panel }

/-- The change that a detail calls for; `none` when it calls for nothing. -/
def revision : ExceptT ReconcileError m (Option Revision) :=
  match detail.disposition with
  | .listedUpdate => do
    let found ← lookUp c s message detail
    let now ← c.reference.now
    return some (.list found now)
  | .cancelledInListing => return some (.withdraw (some .cancelled))
  | .terminalCancellation => return some (.withdraw detail.status.rule.hearingStatus)
  | .failure => return some (.withdraw detail.status.rule.hearingStatus)
  | .notActionable _ => return none

section Lawful

variable [LawfulMonad m]

theorem resolve_eq_lookUp (hearings : List Hearing) (previous : WorkBasket) :
    ListedUpdate.resolve c.reference c.note s.panelEnabled message.caseId detail hearings previous =
      (do
        let found ← lookUp c s message detail
        let now ← c.reference.now
        return .of detail.hearingId found.session found.venue found.panel now hearings
          previous) := by
  unfold ListedUpdate.resolve lookUp
  cases detail.singleSession with
  | error e => simp
  | ok session =>
    simp only [bind_assoc]
    refine bind_congr fun found => ?_
    cases found with
    | none => simp
    | some venue => cases s.panelEnabled <;> simp

theorem revise_eq_revision (data : CaseData) :
    revise c s message detail data =
      Option.map (Revision.applyTo detail · data) <$> revision c s message detail := by
  unfold revise revision
  cases detail.disposition with
  | listedUpdate => simp [resolve_eq_lookUp, Revision.applyTo]
  | cancelledInListing => simp [Revision.applyTo]
  | terminalCancellation => simp [Revision.applyTo]
  | failure => simp [Revision.applyTo]
  | notActionable reason => simp

/-- The lookups do not see the case, and the change of the case has no effects. -/
theorem mutation_eq_revision (a : CaseSnapshot) :
    mutation c s message detail a =
      (·.bind fun r => r.update? detail s.policy a.data) <$> revision c s message detail := by
  unfold mutation
  cases he : detail.status.rule.event? (detail.eventContext s.policy a.data.state) with
  | none =>
    unfold revision
    cases hd : detail.disposition with
    | notActionable reason => simp
    | _ => exact absurd he (HearingDetail.event?_ne_none (by rw [hd]; rfl) _)
  | some type =>
    simp only [revise_eq_revision, bind_pure_comp, Functor.map_map]
    refine congrArg (· <$> revision c s message detail) (funext fun r => ?_)
    cases r with
    | none => rfl
    | some r => simp [Revision.update?, he]

end Lawful

open Runs (Run)

inductive LookedFor {σ : Type} [Runs m σ] : Except ReconcileError Findings → Prop where
  | badSchedule (e : ScheduleError) : detail.singleSession = .error e →
      LookedFor (.error (.schedule e))
  | unknownVenue (session : ListedSession) (t u : σ) : detail.singleSession = .ok session →
      Run (c.reference.venue? session.venue).run t (.ok none) u →
      LookedFor (.error (.unknownVenue message.caseId detail.hearingId session.venue))
  | unanswered (e : ReconcileError) : e.IsLookup → LookedFor (.error e)
  | found (found : Findings) (t u : σ) : detail.singleSession = .ok found.session →
      Run (c.reference.venue? found.session.venue).run t (.ok (some found.venue)) u →
      LookedFor (.ok found)

variable {c s message detail} {σ : Type} [Runs m σ] {t u : σ}

theorem LookedFor.singleSession {found : Findings}
    (h : LookedFor (σ := σ) c message detail (.ok found)) :
    detail.singleSession = .ok found.session := by
  cases h with
  | found _ _ _ hs _ => exact hs

variable [LawfulMonad m]

theorem lookedFor_of_run {r : Except ReconcileError Findings}
    (h : Run (lookUp c s message detail).run t r u) : LookedFor c message detail r := by
  unfold lookUp at h
  cases hs : detail.singleSession with
  | error e =>
    rw [hs] at h
    obtain ⟨rfl, -⟩ := h.of_throw
    exact .badSchedule e hs
  | ok session =>
    rw [hs] at h
    rcases h.of_exceptBind with ⟨e, hvenue, rfl⟩ | ⟨venue, v, hvenue, h⟩
    · exact .unanswered e (FailsOnly.adapt _ (fun _ => trivial) t e u hvenue)
    obtain ⟨answer, hvenue, ha⟩ := hvenue.of_adapt
    obtain rfl : answer = .ok venue := by
      cases answer with
      | error e => cases ha
      | ok venue' => cases ha; rfl
    cases venue with
    | none =>
      obtain ⟨rfl, -⟩ := h.of_throw
      exact .unknownVenue session t v hs hvenue
    | some venue =>
      have hfound {x : ExceptT ReconcileError m (Option Panel)} {w : σ}
          (hx : FailsOnly ReconcileError.IsLookup x)
          (h : Run (x >>= fun panel => pure { session, venue, panel }).run w r u) :
          LookedFor c message detail r := by
        rcases h.of_exceptBind with ⟨e, hpanel, rfl⟩ | ⟨panel, w', -, h⟩
        · exact .unanswered e (hx w e u hpanel)
        · obtain ⟨rfl, -⟩ := h.of_exceptPure
          exact .found { session, venue, panel } t v hs hvenue
      cases hp : s.panelEnabled with
      | false => rw [hp] at h; exact hfound (.pure none) h
      | true => rw [hp] at h; exact hfound (Panel.resolve_fails session) h

theorem singleSession_of_lookUp {found : Findings}
    (h : Run (lookUp c s message detail).run t (.ok found) u) :
    detail.singleSession = .ok found.session :=
  (lookedFor_of_run h).singleSession

variable (c s message detail) in
inductive Revised : Except ReconcileError (Option Revision) → Prop where
  | failed (e : ReconcileError) : detail.disposition = .listedUpdate →
      LookedFor (σ := σ) c message detail (.error e) → Revised (.error e)
  | listed (found : Findings) (now : Instant) : detail.disposition = .listedUpdate →
      LookedFor (σ := σ) c message detail (.ok found) → Revised (.ok (some (.list found now)))
  | withdrawn (status : Option HearingStatus) : detail.CallsFor (.withdraw status) →
      Revised (.ok (some (.withdraw status)))
  | notActionable : Revised (.ok none)

omit [LawfulMonad m] in
theorem Revised.callsFor {r : Revision} (h : Revised (σ := σ) c message detail (.ok (some r))) :
    detail.CallsFor r := by
  cases h with
  | listed found now hd hlook => exact .list found now hd hlook.singleSession
  | withdrawn _ hr => exact hr

theorem revised_of_run {answer : Except ReconcileError (Option Revision)}
    (h : Run (revision c s message detail).run t answer u) :
    Revised (σ := σ) c message detail answer := by
  unfold revision at h
  cases hd : detail.disposition with
  | listedUpdate =>
    rw [hd] at h
    rcases h.of_exceptBind with ⟨e, hlook, rfl⟩ | ⟨found, v, hlook, h⟩
    · exact .failed e hd (lookedFor_of_run hlook)
    rcases h.of_exceptBind with ⟨e, hclock, -⟩ | ⟨now, w, -, h⟩
    · obtain ⟨_, -, he⟩ := hclock.of_exceptLift
      cases he
    · obtain ⟨rfl, -⟩ := h.of_exceptPure
      exact .listed found now hd (lookedFor_of_run hlook)
  | cancelledInListing =>
    rw [hd] at h
    obtain ⟨rfl, -⟩ := h.of_exceptPure
    exact .withdrawn _ (.cancelledInListing hd)
  | terminalCancellation =>
    rw [hd] at h
    obtain ⟨rfl, -⟩ := h.of_exceptPure
    exact .withdrawn _ (.ended (.inl hd))
  | failure =>
    rw [hd] at h
    obtain ⟨rfl, -⟩ := h.of_exceptPure
    exact .withdrawn _ (.ended (.inr hd))
  | notActionable reason =>
    rw [hd] at h
    obtain ⟨rfl, -⟩ := h.of_exceptPure
    exact .notActionable

theorem revision_of_mutation {a : CaseSnapshot} {r : Except ReconcileError (Option CaseUpdate)}
    (h : Run (mutation c s message detail a).run t r u) :
    ∃ answer, Run (revision c s message detail).run t answer u ∧
      r = answer.map (·.bind fun r => r.update? detail s.policy a.data) := by
  rw [mutation_eq_revision, ExceptT.run_map] at h
  exact h.of_map

theorem callsFor_of_revision {r : Revision}
    (h : Run (revision c s message detail).run t (.ok (some r)) u) : detail.CallsFor r :=
  (revised_of_run h).callsFor

end Reconcile

end HearingSync
