import HearingSync.Http.CaseServer
import HearingSync.Http.Hearings
import HearingSync.Http.Judicial
import HearingSync.VenueTable
/-!
All services over HTTP, with the venues in a table.
-/

namespace HearingSync

/-- Programs that talk to servers and keep a journal. -/
abbrev Online := StateT (List Note) Exchange

def Clients.collaborators (clients : Clients) (venues : VenueTable) (now : Instant) :
    Collaborators Online where
  hearing id := ExceptT.mk (liftM (clients.hearings.hearing id).run)
  reference :=
    { venue? := fun code => return venues.find? code
      judge? := fun code => ExceptT.mk (liftM (clients.judicial.judge? code).run)
      now := return now }
  store := CaseServer.caseStore clients.caseStore
  note n := modify (· ++ [n])

end HearingSync
