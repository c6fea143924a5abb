import HearingSync.Proofs.Runs
import HearingSync.Reconcile
/-!
Deciding what to write for a case. Main statements: the mutation of a message asks for venues,
judges and the time and does nothing else, and where the statuses call for action it never finds
that there is nothing to write.
-/

namespace HearingSync

open Runs (Run)

variable {m : Type → Type} [Monad m] [LawfulMonad m] {σ : Type} [Runs m σ] {R : σ → σ → Prop}
  {s t : σ}

/-- The lookups of a mutation and its notes stand to each other as `R` says. -/
structure Collaborators.Consults (c : Collaborators m) (R : σ → σ → Prop) : Prop where
  venue : ∀ code, Keeps R (c.reference.venue? code).run
  judge : ∀ code, Keeps R (c.reference.judge? code).run
  now : Keeps R c.reference.now
  note : ∀ n, Keeps R (c.note n)

section Keeps

variable {c : Collaborators m} [IsPreorder σ R]

theorem Panel.resolveMember_keeps (h : c.Consults R) (code : PersonalCode) :
    Keeps R (Panel.resolveMember c.reference.judge? c.note code).run := by
  refine .exceptBind (.adapt (h.judge code)) fun found => ?_
  by_cases hn : found.isNone = true
  · rw [if_pos hn]
    exact .exceptBind (.exceptLift (h.note _)) fun _ => .exceptPure found
  · rw [if_neg hn]
    exact .exceptPure found

theorem Panel.resolveMembers_keeps (h : c.Consults R) (codes : List PersonalCode) :
    Keeps R (Panel.resolveMembers c.reference.judge? c.note codes).run := by
  induction codes with
  | nil => exact .exceptPure []
  | cons code codes ih =>
    exact .exceptBind (Panel.resolveMember_keeps h code) fun _ =>
      .exceptBind ih fun _ => .exceptPure _

theorem Panel.resolve_keeps (h : c.Consults R) (session : ListedSession) :
    Keeps R (Panel.resolve c.reference.judge? c.note session).run := by
  have hmembers (assignedTo : Option JudicialUser) :=
    Keeps.exceptBind (Panel.resolveMembers_keeps h (session.panelMembers.take Panel.seats))
      fun members => .exceptPure (some (⟨assignedTo, members⟩ : Panel))
  have hseats (assignedTo : Option JudicialUser) : Keeps R (do
      if session.panelMembers.length > Panel.seats then
        c.note (.log .warn "more panel members than seats, extra members not recorded")
      let members ← Panel.resolveMembers c.reference.judge? c.note
        (session.panelMembers.take Panel.seats)
      return some ⟨assignedTo, members⟩ : ExceptT ReconcileError m (Option Panel)).run := by
    by_cases hl : session.panelMembers.length > Panel.seats
    · rw [if_pos hl]
      exact .exceptBind (.exceptLift (h.note _)) fun _ => hmembers assignedTo
    · rw [if_neg hl]
      exact hmembers assignedTo
  unfold Panel.resolve
  by_cases hn : session.judge.isNone = true ∧ session.panelMembers.isEmpty = true
  · rw [if_pos hn]
    exact .exceptPure none
  rw [if_neg hn]
  cases session.judge with
  | none => exact .exceptBind (.exceptPure none) hseats
  | some code => exact .exceptBind (Panel.resolveMember_keeps h code) hseats

theorem ListedUpdate.resolve_keeps (h : c.Consults R) (panelEnabled : Bool) (caseId : CaseId)
    (detail : HearingDetail) (hearings : List Hearing) (previous : WorkBasket) :
    Keeps R (ListedUpdate.resolve c.reference c.note panelEnabled caseId detail hearings
      previous).run := by
  unfold ListedUpdate.resolve
  cases detail.singleSession with
  | error e => exact .throw _
  | ok session =>
    refine .exceptBind (.adapt (h.venue session.venue)) fun found => ?_
    cases found with
    | none => exact .throw _
    | some venue =>
      have hnow (panel : Option Panel) :=
        Keeps.exceptBind (ε := ReconcileError) (.exceptLift h.now) fun now => .exceptPure
          (ListedUpdate.of detail.hearingId session venue panel now hearings previous)
      cases panelEnabled with
      | false => exact .exceptBind (.exceptPure none) hnow
      | true => exact .exceptBind (Panel.resolve_keeps h session) hnow

namespace Reconcile

variable (settings : Settings) (message : HearingMessage) (detail : HearingDetail)

theorem revise_keeps (h : c.Consults R) (data : CaseData) :
    Keeps R (revise c settings message detail data).run := by
  unfold revise
  cases detail.disposition with
  | listedUpdate =>
    exact .exceptBind (ListedUpdate.resolve_keeps h _ _ _ _ _) fun _ => .exceptPure _
  | cancelledInListing => exact .exceptPure _
  | terminalCancellation => exact .exceptPure _
  | failure => exact .exceptPure _
  | notActionable reason => exact .exceptPure _

theorem mutation_keeps (h : c.Consults R) (a : CaseSnapshot) :
    Keeps R (mutation c settings message detail a).run := by
  unfold mutation
  cases detail.status.rule.event? (detail.eventContext settings.policy a.data.state) with
  | none => exact .exceptPure none
  | some type =>
    exact .exceptBind (revise_keeps settings message detail h a.data) fun _ => .exceptPure _

end Reconcile

end Keeps

def ReconcileError.IsLookup : ReconcileError → Prop
  | .lookup _ _ => True
  | _ => False

section Fails

variable {c : Collaborators m}

theorem Panel.resolveMember_fails (code : PersonalCode) :
    FailsOnly ReconcileError.IsLookup
      (Panel.resolveMember c.reference.judge? c.note code) := by
  refine .bind (.adapt _ fun _ => trivial) fun found => ?_
  by_cases hn : found.isNone = true
  · rw [if_pos hn]
    exact .bind (.lift _) fun _ => .pure found
  · rw [if_neg hn]
    exact .pure found

theorem Panel.resolveMembers_fails (codes : List PersonalCode) :
    FailsOnly ReconcileError.IsLookup
      (Panel.resolveMembers c.reference.judge? c.note codes) := by
  induction codes with
  | nil => exact .pure []
  | cons code codes ih =>
    exact .bind (Panel.resolveMember_fails code) fun _ => .bind ih fun _ => .pure _

/-- A panel that is only partly found is no failure. -/
theorem Panel.resolve_fails (session : ListedSession) :
    FailsOnly ReconcileError.IsLookup (Panel.resolve c.reference.judge? c.note session) := by
  have hseats (assignedTo : Option JudicialUser) : FailsOnly ReconcileError.IsLookup (do
      if session.panelMembers.length > Panel.seats then
        c.note (.log .warn "more panel members than seats, extra members not recorded")
      let members ← Panel.resolveMembers c.reference.judge? c.note
        (session.panelMembers.take Panel.seats)
      return some ⟨assignedTo, members⟩ : ExceptT ReconcileError m (Option Panel)) := by
    have hmembers := FailsOnly.bind (β := Option Panel)
      (Panel.resolveMembers_fails (c := c) (session.panelMembers.take Panel.seats))
      fun members => .pure (some ⟨assignedTo, members⟩)
    by_cases hl : session.panelMembers.length > Panel.seats
    · rw [if_pos hl]
      exact .bind (.lift _) fun _ => hmembers
    · rw [if_neg hl]
      exact hmembers
  unfold Panel.resolve
  by_cases hn : session.judge.isNone = true ∧ session.panelMembers.isEmpty = true
  · rw [if_pos hn]
    exact .pure none
  rw [if_neg hn]
  cases session.judge with
  | none => exact .bind (.pure none) hseats
  | some code => exact .bind (Panel.resolveMember_fails code) hseats

end Fails

/-- Each status that may call for action has a rule that chooses a workflow event. -/
theorem HearingDetail.event?_ne_none {detail : HearingDetail}
    (h : detail.disposition.isActionable = true) (ctx : EventContext) :
    detail.status.rule.event? ctx ≠ none := by
  unfold disposition at h
  cases hs : detail.status <;> rw [hs] at h <;>
    simp_all [classify, RequestStatus.isListingRelevant, Disposition.isActionable,
      StatusRule.event?, RequestStatus.rule]

namespace Reconcile

variable {c : Collaborators m} {settings : Settings} {message : HearingMessage}
  {detail : HearingDetail}

omit [LawfulMonad m] in
theorem revise_ne_none (hd : detail.disposition.isActionable = true) {data : CaseData}
    {r : Except ReconcileError (Option CaseData)}
    (h : Run (revise c settings message detail data).run s r t) : r ≠ .ok none := by
  rintro rfl
  unfold revise at h
  cases hk : detail.disposition with
  | listedUpdate =>
    rw [hk] at h
    rcases h.of_exceptBind with ⟨e, -, he⟩ | ⟨update, _, -, hr⟩
    · cases he
    · cases hr.of_exceptPure.1
  | cancelledInListing => rw [hk] at h; cases h.of_exceptPure.1
  | terminalCancellation => rw [hk] at h; cases h.of_exceptPure.1
  | failure => rw [hk] at h; cases h.of_exceptPure.1
  | notActionable reason => rw [hk] at hd; cases hd

omit [LawfulMonad m] in
/-- The classification and the rules agree: what is to be acted upon is written. -/
theorem mutation_ne_none (hd : detail.disposition.isActionable = true) {a : CaseSnapshot}
    {r : Except ReconcileError (Option CaseUpdate)}
    (h : Run (mutation c settings message detail a).run s r t) : r ≠ .ok none := by
  rintro rfl
  unfold mutation at h
  cases he : detail.status.rule.event? (detail.eventContext settings.policy a.data.state) with
  | none => exact HearingDetail.event?_ne_none hd _ he
  | some type =>
    rw [he] at h
    rcases h.of_exceptBind with ⟨e, -, hr⟩ | ⟨revised, _, hrevise, hr⟩
    · cases hr
    · obtain ⟨hr, -⟩ := hr.of_exceptPure
      have hnone : revised = none := by
        cases revised with
        | none => rfl
        | some data => cases hr
      exact revise_ne_none hd hrevise (congrArg Except.ok hnone)

end Reconcile

end HearingSync
