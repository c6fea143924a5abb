import HearingSync.Proofs.Delivery.Failures
/-!
What the error of a message tells about handing it in again. Services that know the same facts
tell the same of hearings and venues, whenever and for whichever case they are asked; the clock goes
on, the store changes, and of judges they may tell what they like. Main statement: after a verdict
on the schedule or the venue the message fails over every store, and after a conflict or an outage
it does what its case calls for as soon as the case can be read.
-/

namespace HearingSync

open Runs (Run)

structure Facts where
  hearing : HearingId → Except ClientError HearingDetail
  venue? : VenueCode → Except ClientError (Option Venue)

/-- A hearing that is to be listed and cannot be: its schedule is bad or its venue is unknown. -/
inductive Facts.Doomed (facts : Facts) (d : HearingDetail) : Prop where
  | badSchedule (e : ScheduleError) : d.disposition = .listedUpdate → d.singleSession = .error e →
      facts.Doomed d
  | unknownVenue (session : ListedSession) : d.disposition = .listedUpdate →
      d.singleSession = .ok session → facts.venue? session.venue = .ok none → facts.Doomed d

namespace ReconcileError

variable {e : ReconcileError}

end ReconcileError

variable {facts : Facts} {services : Services} {settings : Settings} {message : HearingMessage}
  {detail : HearingDetail}

section Lookups

variable {s t : List Call × Unit} {e : ReconcileError}

theorem Facts.Doomed.disposition (h : facts.Doomed detail) :
    detail.disposition = .listedUpdate := by
  cases h with
  | badSchedule e hd _ => exact hd
  | unknownVenue session hd _ _ => exact hd

end Lookups

section Handling

variable {m : Type → Type} [Monad m] {σ ν : Type} [Runs m σ] {c : Collaborators m} {view : σ → ν}
  {s u : σ} {e : ReconcileError}

end Handling

namespace Delivery

variable {d : Delivery} {err : ReconcileError}

/-- The message fails with the error, with a store that the services keep and that answers as it
likes, or over a store in memory. -/
inductive FailsWith (d : Delivery) (err : ReconcileError) : Prop where
  | served : ((HearingSync.process d.services.collaborators d.settings d.message).run.run []).1 =
      .error err → FailsWith d err
  | inMemory (s : MemoryStore) : (d.handle s).1 = .error err → FailsWith d err

/-- Both ways to fail are handlings that end in the error. -/
theorem FailsWith.cases (h : d.FailsWith err) :
    (∃ u, Reconcile.Handled d.services.collaborators d.settings d.message Prod.fst ([], ())
      (.error err) u) ∨
    ∃ s u, Reconcile.Handled d.services.collaborators.overMemory d.settings d.message id
      (s, [], ()) (.error err) u := by
  cases h with
  | served h =>
    have hrun : Run (HearingSync.process d.services.collaborators d.settings d.message).run ([], ())
      ((HearingSync.process d.services.collaborators d.settings d.message).run.run []).1
      (((HearingSync.process d.services.collaborators d.settings d.message).run.run []).2, ()) :=
      rfl
    rw [h] at hrun
    exact .inl ⟨_, Reconcile.handled_of_process Services.quiet hrun⟩
  | inMemory s h =>
    have hrun : Run (HearingSync.process d.services.collaborators.overMemory d.settings
        d.message).run (s, [], ()) (d.handle s).1 ((d.handle s).2,
        ((s.process d.services.collaborators d.settings d.message).run []).2, ()) := rfl
    rw [h] at hrun
    exact .inr ⟨s, _, Reconcile.handled_of_process quiet_services hrun⟩

end Delivery

end HearingSync
