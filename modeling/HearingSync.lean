import HearingSync.CommandLine.Run
import HearingSync.Inspect
import HearingSync.Main
import HearingSync.Proofs.CaseServer.Addressing
import HearingSync.Proofs.CaseServer.CommitLoop
import HearingSync.Proofs.Reconcile.CallDiscipline
import HearingSync.Proofs.Store.OptimisticLock
import HearingSync.Proofs.Store.Serializability
import HearingSync.Proofs.Store.Strategies
import HearingSync.Rehearsal.Stage
import HearingSync.Proofs.Case.Hearings
import HearingSync.Proofs.Case.Revision
import HearingSync.Proofs.Reconcile.Revising
import HearingSync.Proofs.Delivery.Handling
import HearingSync.Proofs.Delivery.Redelivery
import HearingSync.Proofs.Delivery.Projection
import HearingSync.Proofs.Delivery.HearingList
import HearingSync.Proofs.Case.States
import HearingSync.Proofs.Delivery.CaseStates
import HearingSync.Proofs.Delivery.DisplayFields
import HearingSync.Proofs.Reconcile.ClockReadings
import HearingSync.Proofs.Delivery.WorkBasket
import HearingSync.Proofs.Delivery.Relevance
import HearingSync.Proofs.Delivery.DeadLetters
import HearingSync.Proofs.Time.Calendar
import HearingSync.Proofs.Time.Digits
import HearingSync.Proofs.Time.Rereading
import HearingSync.Proofs.Time.ShownTimes
import HearingSync.Proofs.Time.Spellings
import HearingSync.Proofs.Case.Rereading
import HearingSync.Proofs.Json.Rereading
import HearingSync.Proofs.Time.LocalOrder
import HearingSync.Proofs.Delivery.ListedTimes
import HearingSync.Proofs.Store.Reruns
import HearingSync.Proofs.Http.Hearings
import HearingSync.Proofs.Reconcile.Schedules
import HearingSync.Proofs.Http.HalfFilled
import HearingSync.Proofs.Delivery.Cancellations
import HearingSync.Proofs.Time.SummerTime
import HearingSync.Proofs.Http.FailedFetches
import HearingSync.Proofs.Store.FiledCases
import HearingSync.Proofs.Reconcile.PanelSeats
import HearingSync.Proofs.Url.Escapes
import HearingSync.Proofs.Url.Segments
import HearingSync.Proofs.Url.Authority
import HearingSync.Proofs.Url.Joining
import HearingSync.Proofs.Url.OwnSegment
import HearingSync.Proofs.Http.Resources
import HearingSync.Proofs.VenueTable
import HearingSync.Proofs.Http.Judicial
import HearingSync.Proofs.CaseServer.Rounds
import HearingSync.Proofs.Json.Padding
import HearingSync.Proofs.Case.Padding
import HearingSync.Proofs.Identifiers
