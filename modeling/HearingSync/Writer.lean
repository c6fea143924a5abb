import HearingSync.Collaborators
import HearingSync.Settings
/-!
Writing a mutation to the case store. Reading, changing and submitting leaves a window in which
another write makes the submission a conflict; a transaction has none. A mutation that fails writes
nothing either way.
-/

namespace HearingSync

variable {m : Type → Type} [Monad m]

/-- What to write for the case as it is; `none` is nothing. -/
abbrev Mutation (m : Type → Type) := CaseSnapshot → ExceptT ReconcileError m (Option CaseUpdate)

inductive WriteOutcome where
  | committed (version : Nat) (event : CaseEvent)
  | declined
  deriving DecidableEq

namespace CaseStore

def submitMutated (store : CaseStore m) (mutation : Mutation m) (snapshot : CaseSnapshot) :
    ExceptT ReconcileError m WriteOutcome := do
  match ← mutation snapshot with
  | none => return .declined
  | some update =>
    let committed ← (store.submit snapshot update).adapt .store
    return .committed committed.version update.event

def readModifyWrite (store : CaseStore m) (caseId : CaseId) (mutation : Mutation m) :
    ExceptT ReconcileError m WriteOutcome := do
  let snapshot ← (store.fetch caseId).adapt .store
  store.submitMutated mutation snapshot

abbrev LastRun := Except ReconcileError (Option CaseEvent)

def runNoted (mutation : Mutation m) (snapshot : CaseSnapshot) :
    StateT LastRun m (Option CaseUpdate) := do
  let result ← (mutation snapshot).run
  set (result.map (Option.map CaseUpdate.event) : LastRun)
  return result.toOption.join

/-- What a transaction's answer and the last run of the mutation come to together. -/
def settle (answer : Except StoreError (Option CaseSnapshot)) (last : LastRun) :
    Except ReconcileError WriteOutcome :=
  match last, answer with
  | .error e, _ => .error e
  | .ok _, .error e => .error (.store e)
  | .ok (some event), .ok (some snapshot) => .ok (.committed snapshot.version event)
  | .ok _, .ok _ => .ok .declined

def callback (store : CaseStore m) (caseId : CaseId) (mutation : Mutation m) :
    ExceptT ReconcileError m WriteOutcome :=
  ExceptT.mk do
    let (answer, last) ← (store.transact caseId (runNoted mutation)).run.run (.ok none)
    return settle answer last

def write (store : CaseStore m) (strategy : WriteStrategy) (caseId : CaseId)
    (mutation : Mutation m) : ExceptT ReconcileError m WriteOutcome :=
  match strategy with
  | .callback => store.callback caseId mutation
  | .readModifyWrite => store.readModifyWrite caseId mutation

end CaseStore

end HearingSync
