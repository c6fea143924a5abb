import HearingSync.Proofs.Reconcile.Revising
/-!
The states of a case. The workflow event follows from the statuses, the reasons and the state that
the case is in; the state after it follows from the event. Main statement: which commits may move a
case into dormancy, out of it and to a handling error, that all others keep the state, and when the
state downstream may change.
-/

namespace HearingSync

theorem RequestStatus.choice_eq_listed_iff {status : RequestStatus} :
    status.rule.choice = some .listed ↔ status = .listed := by
  cases status <;> simp [rule, StatusRule.inert]

theorem RequestStatus.choice_eq_cancelled_iff {status : RequestStatus} :
    status.rule.choice = some .cancelled ↔ status = .cancelled := by
  cases status <;> simp [rule, StatusRule.inert]

theorem RequestStatus.choice_eq_exception_iff {status : RequestStatus} :
    status.rule.choice = some .exception ↔ status = .exception := by
  cases status <;> simp [rule, StatusRule.inert]

theorem RequestStatus.downstream_eq_some_iff {status : RequestStatus} {state : DownstreamState} :
    status.rule.downstream = some state ↔ status = .listed ∧ state = .hearingDateIssued := by
  cases status <;> simp [rule, StatusRule.inert, eq_comm]

theorem CaseState.isDormant_iff {state : CaseState} :
    state.isDormant = true ↔ state = .dormantAppealState := by
  cases state <;> simp [isDormant]

namespace EventChoice

variable {choice : EventChoice} {ctx : EventContext}

theorem event_eq_dormant_iff : choice.event ctx = .dormant ↔
    choice = .cancelled ∧ ctx.reasons.any CancellationReason.leadsToDormant = true := by
  cases choice with
  | updateOnly => simp [event]
  | listed =>
    dsimp only [event]
    split <;> simp
  | cancelled =>
    dsimp only [event]
    split <;> simp_all
  | exception =>
    dsimp only [event]
    split <;> simp

theorem event_eq_hearingBooked_iff : choice.event ctx = .hearingBooked ↔
    choice = .listed ∧ ctx.listing ≠ some .cancelled := by
  cases choice with
  | updateOnly => simp [event]
  | listed =>
    dsimp only [event]
    split <;> simp_all
  | cancelled =>
    dsimp only [event]
    split <;> simp
  | exception =>
    dsimp only [event]
    split <;> simp

theorem event_eq_handlingError_iff : choice.event ctx = .handlingError ↔
    choice = .exception ∧ ¬(ctx.policy = .keepDormant ∧ ctx.state.isDormant = true) := by
  cases choice with
  | updateOnly => simp [event]
  | listed =>
    dsimp only [event]
    split <;> simp
  | cancelled =>
    dsimp only [event]
    split <;> simp
  | exception =>
    dsimp only [event]
    split <;> simp_all

end EventChoice

theorem StatusRule.event?_eq_some_iff {rule : StatusRule} {ctx : EventContext}
    {type : WorkflowEvent} {choice : EventChoice} {P : Prop}
    (h : ∀ c : EventChoice, c.event ctx = type ↔ c = choice ∧ P) :
    rule.event? ctx = some type ↔ rule.choice = some choice ∧ P := by
  rw [event?, Option.map_eq_some_iff]
  constructor
  · rintro ⟨c, hc, hevent⟩
    obtain ⟨rfl, hP⟩ := (h c).mp hevent
    exact ⟨hc, hP⟩
  · rintro ⟨hc, hP⟩
    exact ⟨choice, hc, (h choice).mpr ⟨rfl, hP⟩⟩

namespace HearingDetail

variable (d : HearingDetail)

def EndsAppeal : Prop :=
  ∃ reason ∈ d.reasons, reason = .withdrawn ∨ reason = .struckOut ∨ reason = .lapsed

def Fails (policy : ExceptionPolicy) (before : CaseState) : Prop :=
  d.status = .exception ∧ (before ≠ .dormantAppealState ∨ policy = .reopenDormant)

/-- What a commit for the detail may do to the states of a case. -/
structure Moves (policy : ExceptionPolicy) (before after : CaseData) : Prop where
  caseId : after.caseId = before.caseId
  intoDormancy : before.state ≠ .dormantAppealState → after.state = .dormantAppealState →
    d.status = .cancelled ∧ d.EndsAppeal
  ended : d.status = .cancelled → d.EndsAppeal → after.state = .dormantAppealState
  outOfDormancy : before.state = .dormantAppealState → after.state ≠ .dormantAppealState →
    (d.status = .listed ∧ d.listing = some .fixed) ∨
      (policy = .reopenDormant ∧ d.status = .exception)
  booked : d.status = .listed → d.listing = some .fixed → after.state = .hearing
  failed : d.status = .exception → before.state ≠ .dormantAppealState →
    after.state = .handlingError
  kept : ¬(d.status = .cancelled ∧ d.EndsAppeal) →
    ¬(d.status = .listed ∧ d.listing = some .fixed) → ¬d.Fails policy before.state →
    after.state = before.state
  downstream : after.downstream ≠ before.downstream →
    d.status = .listed ∧ (d.listing = some .fixed ∨ d.listing = some .cancelled) ∧
      after.downstream = some .hearingDateIssued

variable {d} {policy : ExceptionPolicy} {state : CaseState}

theorem any_leadsToDormant_iff :
    d.reasons.any CancellationReason.leadsToDormant = true ↔ d.EndsAppeal := by
  have hreason (reason : CancellationReason) : reason.leadsToDormant = true ↔
      reason = .withdrawn ∨ reason = .struckOut ∨ reason = .lapsed := by
    cases reason <;> simp [CancellationReason.leadsToDormant]
  simp only [List.any_eq_true, hreason, EndsAppeal]

theorem event?_eq_dormant_iff :
    d.status.rule.event? (d.eventContext policy state) = some .dormant ↔
      d.status = .cancelled ∧ d.EndsAppeal := by
  rw [StatusRule.event?_eq_some_iff fun _ => EventChoice.event_eq_dormant_iff,
    RequestStatus.choice_eq_cancelled_iff]
  exact and_congr_right fun _ => any_leadsToDormant_iff

theorem event?_eq_hearingBooked_iff :
    d.status.rule.event? (d.eventContext policy state) = some .hearingBooked ↔
      d.status = .listed ∧ d.listing ≠ some .cancelled := by
  rw [StatusRule.event?_eq_some_iff fun _ => EventChoice.event_eq_hearingBooked_iff,
    RequestStatus.choice_eq_listed_iff]
  rfl

theorem event?_eq_handlingError_iff :
    d.status.rule.event? (d.eventContext policy state) = some .handlingError ↔
      d.Fails policy state := by
  rw [StatusRule.event?_eq_some_iff fun _ => EventChoice.event_eq_handlingError_iff,
    RequestStatus.choice_eq_exception_iff]
  refine and_congr_right fun _ => ?_
  cases policy <;> simp [eventContext, CaseState.isDormant_iff]

/-- A listed hearing that is acted upon is fixed or taken off the list. -/
theorem listing_of_isActionable (h : d.disposition.isActionable = true) (hs : d.status = .listed) :
    d.listing = some .fixed ∨ d.listing = some .cancelled := by
  unfold disposition at h
  rw [hs] at h
  cases hl : d.listing with
  | none => rw [hl] at h; cases h
  | some listing => cases listing <;> simp_all [classify, RequestStatus.isListingRelevant,
      Disposition.isActionable]

theorem listing_eq_fixed (h : d.disposition.isActionable = true)
    (hs : d.status = .listed ∧ d.listing ≠ some .cancelled) :
    d.status = .listed ∧ d.listing = some .fixed :=
  ⟨hs.1, (listing_of_isActionable h hs.1).resolve_right hs.2⟩

inductive StateAfter (d : HearingDetail) (policy : ExceptionPolicy) (before : CaseState) :
    CaseState → Prop where
  | ended : d.status = .cancelled → d.EndsAppeal → StateAfter d policy before .dormantAppealState
  | booked : d.status = .listed → d.listing = some .fixed → StateAfter d policy before .hearing
  | failed : d.Fails policy before → StateAfter d policy before .handlingError
  | kept : ¬(d.status = .cancelled ∧ d.EndsAppeal) →
      ¬(d.status = .listed ∧ d.listing = some .fixed) → ¬d.Fails policy before →
      StateAfter d policy before before

theorem stateAfter_of_event? (hd : d.disposition.isActionable = true) {type : WorkflowEvent}
    (h : d.status.rule.event? (d.eventContext policy state) = some type) :
    d.StateAfter policy state (type.after state) := by
  cases type with
  | dormant =>
    obtain ⟨hs, hended⟩ := event?_eq_dormant_iff.mp h
    exact .ended hs hended
  | hearingBooked =>
    obtain ⟨hs, hl⟩ := listing_eq_fixed hd (event?_eq_hearingBooked_iff.mp h)
    exact .booked hs hl
  | handlingError => exact .failed (event?_eq_handlingError_iff.mp h)
  | updateCaseOnly =>
    -- any of the other events would have been chosen instead
    refine .kept (fun hended => ?_) (fun hbooked => ?_) fun hfails => ?_
    · cases h.symm.trans (event?_eq_dormant_iff.mpr hended)
    · have hl : d.listing ≠ some .cancelled := by simp [hbooked.2]
      cases h.symm.trans (event?_eq_hearingBooked_iff.mpr ⟨hbooked.1, hl⟩)
    · cases h.symm.trans (event?_eq_handlingError_iff.mpr hfails)

namespace StateAfter

variable {before after : CaseState}

theorem eq_dormantAppealState (h : d.StateAfter policy before after) (hs : d.status = .cancelled)
    (hended : d.EndsAppeal) : after = .dormantAppealState := by
  cases h with
  | ended _ _ => rfl
  | booked hs' _ => cases hs.symm.trans hs'
  | failed hfails => cases hs.symm.trans hfails.1
  | kept hnot _ _ => exact absurd ⟨hs, hended⟩ hnot

theorem eq_hearing (h : d.StateAfter policy before after) (hs : d.status = .listed)
    (hl : d.listing = some .fixed) : after = .hearing := by
  cases h with
  | ended hs' _ => cases hs.symm.trans hs'
  | booked _ _ => rfl
  | failed hfails => cases hs.symm.trans hfails.1
  | kept _ hnot _ => exact absurd ⟨hs, hl⟩ hnot

theorem eq_handlingError (h : d.StateAfter policy before after) (hfails : d.Fails policy before) :
    after = .handlingError := by
  cases h with
  | ended hs _ => cases hfails.1.symm.trans hs
  | booked hs _ => cases hfails.1.symm.trans hs
  | failed _ => rfl
  | kept _ _ hnot => exact absurd hfails hnot

theorem endsAppeal (h : d.StateAfter policy before after) (hbefore : before ≠ .dormantAppealState)
    (hafter : after = .dormantAppealState) : d.status = .cancelled ∧ d.EndsAppeal := by
  cases h with
  | ended hs hended => exact ⟨hs, hended⟩
  | booked _ _ => cases hafter
  | failed _ => cases hafter
  | kept _ _ _ => exact absurd hafter hbefore

theorem leaves (h : d.StateAfter policy before after) (hbefore : before = .dormantAppealState)
    (hafter : after ≠ .dormantAppealState) :
    (d.status = .listed ∧ d.listing = some .fixed) ∨
      (policy = .reopenDormant ∧ d.status = .exception) := by
  cases h with
  | ended _ _ => exact absurd rfl hafter
  | booked hs hl => exact .inl ⟨hs, hl⟩
  | failed hfails => exact .inr ⟨hfails.2.resolve_left fun hne => hne hbefore, hfails.1⟩
  | kept _ _ _ => exact absurd hbefore hafter

theorem eq_before (h : d.StateAfter policy before after)
    (hended : ¬(d.status = .cancelled ∧ d.EndsAppeal))
    (hbooked : ¬(d.status = .listed ∧ d.listing = some .fixed)) (hfails : ¬d.Fails policy before) :
    after = before := by
  cases h with
  | ended hs h => exact absurd ⟨hs, h⟩ hended
  | booked hs hl => exact absurd ⟨hs, hl⟩ hbooked
  | failed h => exact absurd h hfails
  | kept _ _ _ => rfl

end StateAfter

end HearingDetail

namespace Revision

variable {detail : HearingDetail} {policy : ExceptionPolicy} {r : Revision} {data : CaseData}
  {update : CaseUpdate}

theorem commit_state (hr : detail.CallsFor r) (h : r.update? detail policy data = some update)
    (a : CaseSnapshot) : detail.StateAfter policy data.state (a.commit update).data.state := by
  obtain ⟨type, htype, hevent⟩ := event?_of_update? h
  rw [commit_data h a, hevent]
  exact HearingDetail.stateAfter_of_event? hr.isActionable htype

theorem commit_downstream (h : r.update? detail policy data = some update) (a : CaseSnapshot)
    (hchanged : (a.commit update).data.downstream ≠ data.downstream) :
    detail.status = .listed ∧ (a.commit update).data.downstream = some .hearingDateIssued := by
  rw [commit_data h a] at hchanged ⊢
  cases hd : detail.status.rule.downstream with
  | none =>
    rw [hd] at hchanged
    exact absurd rfl hchanged
  | some state =>
    obtain ⟨hs, rfl⟩ := RequestStatus.downstream_eq_some_iff.mp hd
    exact ⟨hs, rfl⟩

/-- What is committed for a detail moves the case as the detail may. -/
theorem moves (hr : detail.CallsFor r) (h : r.update? detail policy data = some update)
    (a : CaseSnapshot) : detail.Moves policy data (a.commit update).data := by
  have hstate := commit_state hr h a
  refine ⟨?_, hstate.endsAppeal, hstate.eq_dormantAppealState, hstate.leaves, hstate.eq_hearing,
    ?_, hstate.eq_before, ?_⟩
  · rw [commit_data h a]
  · intro hs hbefore
    exact hstate.eq_handlingError ⟨hs, .inl hbefore⟩
  · intro hchanged
    obtain ⟨hs, hissued⟩ := commit_downstream h a hchanged
    exact ⟨hs, HearingDetail.listing_of_isActionable hr.isActionable hs, hissued⟩

end Revision

end HearingSync
