import HearingSync.Proofs.Store.Writer
import HearingSync.Rehearsal.Stage
/-!
The two write strategies over the store in memory, with nobody else at work on it. Main statement:
they cannot be told apart, neither by one write nor by the handling of a whole message.
-/

namespace HearingSync

variable {n : Type → Type} [Monad n]

theorem run_bind_congr {ε σ α β : Type} {x y : ExceptT ε (StateT σ n) α} {s : σ}
    (h : x.run.run s = y.run.run s) (f : α → ExceptT ε (StateT σ n) β) :
    (x >>= f).run.run s = (y >>= f).run.run s := by
  rw [ExceptT.run_bind, ExceptT.run_bind, StateT.run_bind, StateT.run_bind, h]

variable [LawfulMonad n]

/-- A program beside the state hands on the state that it was started with. -/
theorem run_withState_bind_congr {ε σ α β : Type} (x : ExceptT ε n α) {s : σ}
    {f g : α → ExceptT ε (StateT σ n) β} (h : ∀ a, (f a).run.run s = (g a).run.run s) :
    (withState x >>= f).run.run s = (withState x >>= g).run.run s := by
  rw [ExceptT.run_bind, ExceptT.run_bind, StateT.run_bind, StateT.run_bind, run_withState,
    bind_map_left, bind_map_left]
  refine bind_congr fun r => ?_
  cases r with
  | error e => rfl
  | ok a => exact h a

variable {s : MemoryStore} (c : Collaborators n) (settings : Settings) (strategy : WriteStrategy)
  (message : HearingMessage) (detail : HearingDetail)

namespace Reconcile

theorem run_write_mutation (hs : s.cases.UnderOwnIds) :
    (c.overMemory.store.write strategy message.caseId
        (mutation c.overMemory settings message detail)).run.run s =
      s.writeAtOnce message.caseId (mutation c settings message detail) := by
  rw [mutation_overMemory]
  exact MemoryStore.write_eq_writeAtOnce hs strategy _

theorem run_settle_of_strategy (hs : s.cases.UnderOwnIds) :
    (settle c.overMemory { settings with strategy } message detail).run.run s =
      (settle c.overMemory settings message detail).run.run s := by
  have hw := (run_write_mutation c { settings with strategy } strategy message detail hs).trans
    (run_write_mutation c settings settings.strategy message detail hs).symm
  unfold settle
  by_cases ha : (!detail.disposition.isActionable) = true
  · rw [if_pos ha, if_pos ha]
  rw [if_neg ha, if_neg ha]
  by_cases hl : detail.disposition.isListedUpdate = true
  · rw [if_pos hl, if_pos hl]
    cases detail.singleSession with
    | error e => simp only [ExceptT.run_bind, ExceptT.run_throw, pure_bind]
    | ok session => exact run_bind_congr hw _
  · rw [if_neg hl, if_neg hl]
    exact run_bind_congr hw _

theorem run_reconcile_of_strategy (hs : s.cases.UnderOwnIds) :
    (reconcile c.overMemory { settings with strategy } message).run.run s =
      (reconcile c.overMemory settings message).run.run s := by
  have hsettle (detail : HearingDetail) :=
    run_settle_of_strategy c settings strategy message detail hs
  unfold reconcile
  simp only [Collaborators.overMemory, ← withState_adapt]
  refine run_withState_bind_congr _ fun detail => ?_
  by_cases hr : detail.status ≠ message.reportedStatus
  · rw [if_pos hr, if_pos hr, ← withState_liftM]
    exact run_withState_bind_congr _ fun _ => hsettle detail
  · rw [if_neg hr, if_neg hr]
    exact hsettle detail

end Reconcile

namespace MemoryStore

def process (s : MemoryStore) (c : Collaborators n) (settings : Settings)
    (message : HearingMessage) : n (Except ReconcileError Outcome × MemoryStore) :=
  (HearingSync.process c.overMemory settings message).run.run s

theorem process_of_strategy (hs : s.cases.UnderOwnIds) :
    s.process c { settings with strategy } message = s.process c settings message := by
  unfold process HearingSync.process
  rw [ExceptT.run_mk, ExceptT.run_mk, StateT.run_bind, StateT.run_bind,
    Reconcile.run_reconcile_of_strategy c settings strategy message hs]

/-- Nobody else being at work on the store, the strategies come to the same answer and the same
store. Mutations and services have effects in a monad of any kind, and the equations are between
programs of that monad: the mutation runs as often and on the same snapshot, and the services are
asked the same in the same order. -/
theorem strategies_interchangeable (hs : s.cases.UnderOwnIds) :
    (∀ (id : CaseId) (mutation : Mutation n),
      s.write .callback id mutation = s.write .readModifyWrite id mutation ∧
      s.write .callback id mutation = s.writeAtOnce id mutation) ∧
    ∀ (c : Collaborators n) (settings : Settings) (message : HearingMessage),
      s.process c { settings with strategy := .callback } message =
        s.process c { settings with strategy := .readModifyWrite } message := by
  constructor
  · intro id mutation
    have hc : s.write .callback id mutation = s.writeAtOnce id mutation :=
      write_eq_writeAtOnce hs .callback mutation
    have hr : s.write .readModifyWrite id mutation = s.writeAtOnce id mutation :=
      write_eq_writeAtOnce hs .readModifyWrite mutation
    exact ⟨hc.trans hr.symm, hc⟩
  · intro c settings message
    exact (process_of_strategy c settings .callback message hs).trans
      (process_of_strategy c settings .readModifyWrite message hs).symm

def oneCase : MemoryStore :=
  ({} : MemoryStore).insert { caseId := ⟨"11", by decide, by decide⟩, state := .readyToList }

theorem oneCase_underOwnIds : oneCase.cases.UnderOwnIds :=
  Filing.underOwnIds_nil.put rfl

end MemoryStore

namespace Rehearsal

def sittingJudge : PersonalCode := ⟨"P1", by decide, by decide⟩

def hearingRoom : VenueCode := ⟨"372653", by decide, by decide⟩

def plannedHearing : HearingId :=
  { text := "1", trimmed := by decide, nonempty := by decide }

def listedHearing : HearingDetail where
  hearingId := plannedHearing
  status := .listed
  listing := some .fixed
  reasons := []
  sessions := [
    { start := some ⟨{ date := ⟨20000⟩, second := 36000, nano := 0 }⟩
      finish := some ⟨{ date := ⟨20000⟩, second := 39600, nano := 0 }⟩
      venue := some hearingRoom
      judge := some sittingJudge
      panelMembers := []
      channel := none }]

def listingMessage : HearingMessage where
  serviceCode := "BBA3"
  caseId := ⟨"11", by decide, by decide⟩
  hearingId := plannedHearing
  reportedStatus := .listed

def oneVenue : Cast where
  venues := ⟨[(hearingRoom, ⟨"12", "Leeds", none⟩)]⟩
  venueFailures := []
  judges := []
  now := ⟨{ date := ⟨19990⟩, second := 0, nano := 0 }⟩

def listedStage : Stage := { hearings := [(plannedHearing.text, .ok listedHearing)] }

theorem strategies_interchangeable_listing :
    MemoryStore.oneCase.cases.UnderOwnIds ∧
    MemoryStore.oneCase.process (collaborators oneVenue) { strategy := .callback } listingMessage =
      MemoryStore.oneCase.process (collaborators oneVenue) { strategy := .readModifyWrite }
        listingMessage ∧
    ((MemoryStore.oneCase.process (collaborators oneVenue) { strategy := .readModifyWrite }
      listingMessage).run listedStage).1.1 = .ok (.committed .listedUpdate .hearingBooked 2) ∧
    ((MemoryStore.oneCase.process (collaborators oneVenue) { strategy := .readModifyWrite }
      listingMessage).run listedStage).2.asked = [sittingJudge] := by
  refine ⟨MemoryStore.oneCase_underOwnIds, ?_, by rfl, by rfl⟩
  have h := MemoryStore.strategies_interchangeable (n := Rehearse) MemoryStore.oneCase_underOwnIds
  exact h.2 (collaborators oneVenue) {} listingMessage

end Rehearsal

end HearingSync
