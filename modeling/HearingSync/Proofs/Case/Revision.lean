import HearingSync.Proofs.Case.Hearings
import HearingSync.Proofs.Snapshot
import HearingSync.Reconcile
/-!
The change of a case that a hearing calls for, once venue, panel and time are known. Main
statements: what a committed change leaves of each part of the document, and that the same change
made once more, at whatever time, leaves the document as it is.
-/

namespace HearingSync

structure Findings where
  session : ListedSession
  venue : Venue
  panel : Option Panel

/-- The change of a case, before the case itself is looked at. -/
inductive Revision where
  | list (found : Findings) (now : Instant)
  | withdraw (status : Option HearingStatus)

def WorkflowEvent.after (e : WorkflowEvent) (state : CaseState) : CaseState :=
  e.postState?.getD state

theorem WorkflowEvent.after_after (e : WorkflowEvent) (state : CaseState) :
    e.after (e.after state) = e.after state := by
  cases e <;> rfl

namespace Revision

def timed (now : Instant) : Revision → Revision
  | .list found _ => .list found now
  | .withdraw status => .withdraw status

variable (detail : HearingDetail)

def edit : Revision → Hearing → Hearing
  | .list found _ =>
    Hearing.stamped detail.status.rule.hearingStatus ∘
      (·.withSession found.session found.venue found.panel)
  | .withdraw status => Hearing.stamped status

/-- Only a listing adds an entry where there is none. -/
def onHearings (r : Revision) (hearings : List Hearing) : List Hearing :=
  match r with
  | .list _ _ => Hearing.upsert detail.hearingId (r.edit detail) hearings
  | .withdraw _ => Hearing.modifyFirst detail.hearingId (r.edit detail) hearings

def onEntry (r : Revision) (entry : Option Hearing) : Option Hearing :=
  match r with
  | .list _ _ => some (r.edit detail (entry.getD { hearingId := detail.hearingId }))
  | .withdraw _ => entry.map (r.edit detail)

def onBasket : Revision → WorkBasket → WorkBasket
  | .list found now, previous =>
    .listed found.session.venue found.session.start.toLondon previous now
  | .withdraw _, _ => .cleared

/-- The document as it is handed in, but for the downstream state. -/
def applyTo (r : Revision) (data : CaseData) : CaseData :=
  match r with
  | .list found now =>
    data.listHearing detail.hearingId
      (.of detail.hearingId found.session found.venue found.panel now data.hearings data.workBasket)
      detail.status.rule.hearingStatus
  | .withdraw status => data.withdrawHearing detail.hearingId status

def update? (policy : ExceptionPolicy) (r : Revision) (data : CaseData) : Option CaseUpdate :=
  (detail.status.rule.event? (detail.eventContext policy data.state)).map fun type =>
    { data := (r.applyTo detail data).withDownstream detail.status.rule
      event := detail.caseEvent type }

variable {detail} {r : Revision} {policy : ExceptionPolicy} {data : CaseData} {update : CaseUpdate}

theorem edit_keepsId : Hearing.KeepsId (r.edit detail) := by
  cases r with
  | list found now => exact (Hearing.stamped_keepsId _).comp fun _ => rfl
  | withdraw status => exact Hearing.stamped_keepsId status

theorem edit_edit (h : Hearing) : r.edit detail (r.edit detail h) = r.edit detail h := by
  cases r with
  | list found now => simp [edit, Hearing.stamped, Hearing.withSession, ← Option.or_assoc]
  | withdraw status => simp [edit, Hearing.stamped, ← Option.or_assoc]

theorem edit_comp_edit : r.edit detail ∘ r.edit detail = r.edit detail := funext edit_edit

@[simp] theorem onHearings_timed (now : Instant) (hearings : List Hearing) :
    (r.timed now).onHearings detail hearings = r.onHearings detail hearings := by
  cases r <;> rfl

@[simp] theorem onEntry_timed (now : Instant) (entry : Option Hearing) :
    (r.timed now).onEntry detail entry = r.onEntry detail entry := by
  cases r <;> rfl

theorem find?_onHearings (hearings : List Hearing) (id : HearingId) :
    Hearing.find? (r.onHearings detail hearings) id =
      if id = detail.hearingId then r.onEntry detail (Hearing.find? hearings detail.hearingId)
      else Hearing.find? hearings id := by
  cases r with
  | list found now => exact Hearing.find?_upsert edit_keepsId
  | withdraw status => exact Hearing.find?_modifyFirst edit_keepsId

theorem getElem?_onHearings {hearings : List Hearing} {k : Nat}
    (hk : k ≠ Hearing.place hearings detail.hearingId) :
    (r.onHearings detail hearings)[k]? = hearings[k]? := by
  cases r with
  | list found now => exact Hearing.getElem?_upsert hk
  | withdraw status => exact Hearing.getElem?_modifyFirst hk

theorem onHearings_onHearings (hearings : List Hearing) :
    r.onHearings detail (r.onHearings detail hearings) = r.onHearings detail hearings := by
  cases r with
  | list found now =>
    rw [onHearings, onHearings, Hearing.upsert_upsert edit_keepsId, edit_comp_edit]
  | withdraw status =>
    rw [onHearings, onHearings, Hearing.modifyFirst_modifyFirst edit_keepsId, edit_comp_edit]

/-- The stamp of the first listing stays. -/
theorem onBasket_onBasket (now : Instant) (basket : WorkBasket) :
    (r.timed now).onBasket (r.onBasket basket) = r.onBasket basket := by
  cases r <;> rfl

theorem applyTo_eq (data : CaseData) :
    r.applyTo detail data =
      { data with hearings := r.onHearings detail data.hearings
                  workBasket := r.onBasket data.workBasket } := by
  cases r with
  | list found now =>
    have hkeeps : Hearing.KeepsId (·.withSession found.session found.venue found.panel) :=
      fun _ => rfl
    simp only [applyTo, CaseData.listHearing, ListedUpdate.of, Hearing.setStatus_eq_modifyFirst,
      Hearing.modifyFirst_upsert hkeeps]
    rfl
  | withdraw status =>
    simp only [applyTo, CaseData.withdrawHearing, Hearing.setStatus_eq_modifyFirst]
    rfl

theorem event?_of_update? (h : r.update? detail policy data = some update) :
    ∃ type, detail.status.rule.event? (detail.eventContext policy data.state) = some type ∧
      update.event = detail.caseEvent type := by
  obtain ⟨type, htype, rfl⟩ := Option.map_eq_some_iff.mp h
  exact ⟨type, htype, rfl⟩

/-- The document that the store holds after the change. -/
theorem commit_data (h : r.update? detail policy data = some update) (a : CaseSnapshot) :
    (a.commit update).data =
      { caseId := data.caseId
        state := update.event.type.after data.state
        hearings := r.onHearings detail data.hearings
        workBasket := r.onBasket data.workBasket
        downstream := detail.status.rule.downstream.orElse fun _ => data.downstream } := by
  obtain ⟨type, -, rfl⟩ := Option.map_eq_some_iff.mp h
  unfold CaseSnapshot.commit
  rw [applyTo_eq]
  cases type <;> rfl

theorem update?_caseId (h : r.update? detail policy data = some update) :
    update.data.caseId = data.caseId := by
  obtain ⟨type, -, rfl⟩ := Option.map_eq_some_iff.mp h
  rw [applyTo_eq]
  rfl

/-- An exception moves a case to where the next one leaves it, and the other events do not depend on
the state. -/
theorem event?_again {type : WorkflowEvent} {state : CaseState}
    (h : detail.status.rule.event? (detail.eventContext policy state) = some type) :
    detail.status.rule.event? (detail.eventContext policy (type.after state)) = some type := by
  obtain ⟨choice, hchoice, rfl⟩ := Option.map_eq_some_iff.mp h
  rw [StatusRule.event?, hchoice, Option.map_some, Option.some_inj]
  cases choice with
  | updateOnly => rfl
  | listed => rfl
  | cancelled => rfl
  | exception =>
    by_cases hk : policy = .keepDormant ∧ state.isDormant = true
    · have hkept : EventChoice.exception.event (detail.eventContext policy state) =
          .updateCaseOnly := if_pos hk
      rw [hkept]
      exact hkept
    · have hmoved : EventChoice.exception.event (detail.eventContext policy state) =
          .handlingError := if_neg hk
      rw [hmoved]
      exact if_neg fun h => nomatch h.2

/-- A change that was made can be made again, and changes nothing any more. -/
theorem update?_again (h : r.update? detail policy data = some update) (a : CaseSnapshot)
    (now : Instant) : ∃ again,
      (r.timed now).update? detail policy (a.commit update).data = some again ∧
      again.event = update.event ∧
        ∀ b : CaseSnapshot, (b.commit again).data = (a.commit update).data := by
  obtain ⟨type, htype, hevent⟩ := event?_of_update? h
  have hdata := commit_data h a
  rw [hevent] at hdata
  have hnext : detail.status.rule.event? (detail.eventContext policy (a.commit update).data.state) =
      some type := by
    rw [hdata]
    exact event?_again htype
  obtain ⟨again, hagain, hagainEvent⟩ : ∃ again,
      (r.timed now).update? detail policy (a.commit update).data = some again ∧
        again.event = detail.caseEvent type := by
    rw [update?, hnext]
    exact ⟨_, rfl, rfl⟩
  refine ⟨again, hagain, hagainEvent.trans hevent.symm, fun b => ?_⟩
  have hdownstream (o p : Option DownstreamState) :
      (o.orElse fun _ => o.orElse fun _ => p) = o.orElse fun _ => p := by cases o <;> rfl
  rw [commit_data hagain, hagainEvent, hdata]
  simp only [HearingDetail.caseEvent, onHearings_timed, onHearings_onHearings, onBasket_onBasket,
    WorkflowEvent.after_after, hdownstream]

end Revision

end HearingSync
