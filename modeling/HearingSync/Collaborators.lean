import HearingSync.Case
import HearingSync.Error.Reconcile
import HearingSync.Journal
/-!
The services around the reconciliation, in a monad of the caller's choice: the listing service, the
reference data, the clock, the journal and the case store.
-/

namespace HearingSync

/-- The case store. `transact` reads a case, asks what to write and writes it with no other write
to the case in between; it may do so more than once, and `none` is its answer when nothing was to
be written. The state that the question carries along is the caller's. -/
structure CaseStore (m : Type → Type) where
  name : String
  fetch : CaseId → ExceptT StoreError m CaseSnapshot
  submit : CaseSnapshot → CaseUpdate → ExceptT StoreError m CaseSnapshot
  transact : {τ : Type} → CaseId → (CaseSnapshot → StateT τ m (Option CaseUpdate)) →
    ExceptT StoreError (StateT τ m) (Option CaseSnapshot)

structure ReferenceData (m : Type → Type) where
  venue? : VenueCode → ExceptT ClientError m (Option Venue)
  judge? : PersonalCode → ExceptT ClientError m (Option JudicialUser)
  now : m Instant

structure Collaborators (m : Type → Type) where
  hearing : HearingId → ExceptT ClientError m HearingDetail
  reference : ReferenceData m
  store : CaseStore m
  note : Note → m Unit

end HearingSync
