import HearingSync.Reconcile
/-!
The mutation that a message calls for, with services that answer without effects. Main statement:
what it writes is a document of the case that it was given.
-/

namespace HearingSync.Reconcile

variable {c : Collaborators Id} {settings : Settings} {message : HearingMessage}
  {detail : HearingDetail}

theorem revise_keeps_caseId {data revised : CaseData}
    (h : (revise c settings message detail data).run = .ok (some revised)) :
    revised.caseId = data.caseId := by
  unfold revise at h
  cases hd : detail.disposition with
  | listedUpdate =>
    rw [hd] at h
    simp only [bind_pure_comp, ExceptT.run_map] at h
    cases hr : (ListedUpdate.resolve c.reference c.note settings.panelEnabled message.caseId detail
        data.hearings data.workBasket).run with
    | error e => rw [hr] at h; cases h
    | ok update => rw [hr] at h; cases h; rfl
  | cancelledInListing => rw [hd] at h; cases h; rfl
  | terminalCancellation => rw [hd] at h; cases h; rfl
  | failure => rw [hd] at h; cases h; rfl
  | notActionable reason => rw [hd] at h; cases h

theorem mutation_keeps_caseId {a : CaseSnapshot} {update : CaseUpdate}
    (h : (mutation c settings message detail a).run = .ok (some update)) :
    update.data.caseId = a.data.caseId := by
  unfold mutation at h
  cases he : detail.status.rule.event? (detail.eventContext settings.policy a.data.state) with
  | none => rw [he] at h; cases h
  | some type =>
    rw [he] at h
    simp only [bind_pure_comp, ExceptT.run_map] at h
    cases hr : (revise c settings message detail a.data).run with
    | error e => rw [hr] at h; cases h
    | ok revised =>
      rw [hr] at h
      cases revised with
      | none => cases h
      | some data =>
        cases h
        have hd : data.caseId = a.data.caseId := revise_keeps_caseId hr
        exact hd

end HearingSync.Reconcile
