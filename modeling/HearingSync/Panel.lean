import HearingSync.Collaborators
/-!
The panel of a listed session: the judge and two members at most. Codes that reference data does not
know are left out; a lookup that fails ends the work.
-/

namespace HearingSync

variable {m : Type → Type} [Monad m]

namespace Panel

def seats : Nat := 2

def resolveMember (judge? : PersonalCode → ExceptT ClientError m (Option JudicialUser))
    (note : Note → m Unit) (code : PersonalCode) :
    ExceptT ReconcileError m (Option JudicialUser) := do
  let found ← (judge? code).adapt (.lookup (.judge code))
  if found.isNone then
    note (.log .warn "judicial code not found in reference data, panel will be partial")
  return found

def resolveMembers (judge? : PersonalCode → ExceptT ClientError m (Option JudicialUser))
    (note : Note → m Unit) : List PersonalCode → ExceptT ReconcileError m (List JudicialUser)
  | [] => return []
  | code :: codes => do
    let found ← resolveMember judge? note code
    let rest ← resolveMembers judge? note codes
    return found.toList ++ rest

/-- The session's panel; `none` when the session names nobody. -/
def resolve (judge? : PersonalCode → ExceptT ClientError m (Option JudicialUser))
    (note : Note → m Unit) (session : ListedSession) : ExceptT ReconcileError m (Option Panel) := do
  if session.judge.isNone ∧ session.panelMembers.isEmpty then
    return none
  let assignedTo ← match session.judge with
    | some code => resolveMember judge? note code
    | none => pure none
  if session.panelMembers.length > seats then
    note (.log .warn "more panel members than seats, extra members not recorded")
  let members ← resolveMembers judge? note (session.panelMembers.take seats)
  return some { assignedTo, members }

end Panel

end HearingSync
