import HearingSync.ListedUpdate
import HearingSync.Outcome
import HearingSync.Rule
import HearingSync.Writer
/-!
Handling one message: the listing service is asked for the hearing, its statuses say what is to be
done, and one mutation is handed to the case store. A message that calls for nothing, and a listed
hearing with a bad schedule, do not reach the store.
-/

namespace HearingSync

variable {m : Type → Type} [Monad m]

def CaseData.withdrawHearing (c : CaseData) (id : HearingId) (status : Option HearingStatus) :
    CaseData :=
  { c with hearings := Hearing.setStatus c.hearings id status, workBasket := .cleared }

def CaseData.listHearing (c : CaseData) (id : HearingId) (update : ListedUpdate)
    (status : Option HearingStatus) : CaseData :=
  { c with
    hearings := Hearing.setStatus update.hearings id status
    workBasket := update.workBasket }

/-- The downstream state that the rule gives; with none it stays as it is. -/
def CaseData.withDownstream (c : CaseData) (rule : StatusRule) : CaseData :=
  { c with downstream := rule.downstream.orElse fun _ => c.downstream }

namespace HearingDetail

def disposition (d : HearingDetail) : Disposition := classify d.status d.listing

def eventContext (d : HearingDetail) (policy : ExceptionPolicy) (state : CaseState) :
    EventContext :=
  { listing := d.listing, reasons := d.reasons, state, policy }

def caseEvent (d : HearingDetail) (type : WorkflowEvent) : CaseEvent :=
  { type, summary := d.status.rule.summary
    description := d.status.rule.description d.hearingId.text }

end HearingDetail

namespace Reconcile

variable (c : Collaborators m) (s : Settings) (message : HearingMessage) (detail : HearingDetail)

/-- The document that the disposition calls for; `none` when it calls for nothing. -/
def revise (data : CaseData) : ExceptT ReconcileError m (Option CaseData) := do
  let status := detail.status.rule.hearingStatus
  match detail.disposition with
  | .listedUpdate =>
    let update ← ListedUpdate.resolve c.reference c.note s.panelEnabled message.caseId detail
      data.hearings data.workBasket
    return some (data.listHearing detail.hearingId update status)
  | .cancelledInListing => return some (data.withdrawHearing detail.hearingId (some .cancelled))
  | .terminalCancellation => return some (data.withdrawHearing detail.hearingId status)
  | .failure => return some (data.withdrawHearing detail.hearingId status)
  | .notActionable _ => return none

def mutation : Mutation m := fun snapshot => do
  match detail.status.rule.event? (detail.eventContext s.policy snapshot.data.state) with
  | none => return none
  | some type =>
    let revised ← revise c s message detail snapshot.data
    return revised.map fun data =>
      { data := data.withDownstream detail.status.rule, event := detail.caseEvent type }

def settle : ExceptT ReconcileError m Outcome := do
  let disposition := detail.disposition
  if !disposition.isActionable then
    c.note (.log .info "hearing event not actionable, case left unchanged")
    return .notActionable disposition
  if disposition.isListedUpdate then
    match detail.singleSession with
    | .error e => throw (.schedule e)
    | .ok _ => pure ()
  match ← c.store.write s.strategy message.caseId (mutation c s message detail) with
  | .committed version event =>
    c.note (.log .info "case updated from hearing event")
    return .committed disposition event.type version
  | .declined =>
    c.note (.log .warn "case update declined by mutation")
    return .declined disposition

def reconcile : ExceptT ReconcileError m Outcome := do
  let detail ← (c.hearing message.hearingId).adapt (.fetch message.hearingId)
  if detail.status ≠ message.reportedStatus then
    c.note (.log .warn "reported status differs from HMC, using HMC status")
  settle c s message detail

end Reconcile

def process (c : Collaborators m) (s : Settings) (message : HearingMessage) :
    ExceptT ReconcileError m Outcome :=
  ExceptT.mk do
    let result ← (Reconcile.reconcile c s message).run
    match result with
    | .ok outcome => c.note (.handled outcome.label)
    | .error e =>
      c.note (.log .warn "hearing event failed, case left unchanged")
      c.note (.failed e.kind)
    return result

def receive (c : Collaborators m) (s : Settings) (message : HearingMessage) :
    ExceptT ReconcileError m Outcome := do
  match s.gate.refusal? message with
  | some reason =>
    let outcome := Outcome.filtered reason
    c.note (.handled outcome.label)
    return outcome
  | none => process c s message

end HearingSync
