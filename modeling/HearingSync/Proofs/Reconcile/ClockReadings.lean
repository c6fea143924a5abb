import HearingSync.Proofs.Reconcile.Revising
import HearingSync.Proofs.Reconcile.Services
/-!
When the clock is read. Lookups do not read it. Main statement: a listing reads it once, after its
lookups, and the reading is the time of the change.
-/

namespace HearingSync

open Runs (Run)

namespace Reconcile

variable {m : Type → Type} [Monad m] [LawfulMonad m] {σ : Type} [Runs m σ] {R : σ → σ → Prop}
  [IsPreorder σ R] {c : Collaborators m}

theorem lookUp_keeps (settings : Settings) (message : HearingMessage) (detail : HearingDetail)
    (h : c.Consults R) : Keeps R (lookUp c settings message detail).run := by
  unfold lookUp
  cases detail.singleSession with
  | error e => exact .throw _
  | ok session =>
    refine .exceptBind (.adapt (h.venue session.venue)) fun found => ?_
    cases found with
    | none => exact .throw _
    | some venue =>
      cases settings.panelEnabled with
      | false =>
        exact .exceptBind (.exceptPure none) fun panel =>
          .exceptPure (⟨session, venue, panel⟩ : Findings)
      | true =>
        exact .exceptBind (Panel.resolve_keeps h session) fun panel =>
          .exceptPure (⟨session, venue, panel⟩ : Findings)

end Reconcile

def Call.reading? : Call → Option Instant
  | .clock now => some now
  | _ => none

def Call.readings (calls : List Call) : List Instant := calls.filterMap Call.reading?

def SameReadings (s t : List Call × Unit) : Prop := Call.readings t.1 = Call.readings s.1

instance : IsPreorder (List Call × Unit) SameReadings where
  refl _ := rfl
  trans _ _ _ hst htu := htu.trans hst

variable {services : Services} {settings : Settings} {message : HearingMessage}
  {detail : HearingDetail}

theorem sameReadings_of_call {α : Type} {answer : List Call → α} {entry : α → Call}
    (hentry : ∀ a, (entry a).reading? = none) :
    Keeps SameReadings (Recorded.call answer entry) := by
  intro s a t h
  obtain ⟨-, ht⟩ := run_call h
  unfold SameReadings Call.readings
  rw [ht, List.filterMap_append, List.filterMap_cons_none (hentry a), List.filterMap_nil,
    List.append_nil]

namespace Services

def unclocked (services : Services) : Collaborators Recorded :=
  { services.collaborators with
    reference := { services.collaborators.reference with now := pure (services.now []) } }

theorem unclocked_consults : services.unclocked.Consults SameReadings where
  venue _ := sameReadings_of_call fun _ => rfl
  judge _ := sameReadings_of_call fun _ => rfl
  now := by
    intro s a t h
    obtain ⟨-, rfl⟩ := Runs.of_pure h
    exact refl_of SameReadings t
  note n := by
    intro s a t h
    obtain ⟨-, rfl⟩ := Runs.of_pure h
    exact refl_of SameReadings t

theorem lookUp_sameReadings :
    Keeps SameReadings (Reconcile.lookUp services.collaborators settings message detail).run := by
  have h : Keeps SameReadings (Reconcile.lookUp services.unclocked settings message detail).run :=
    Reconcile.lookUp_keeps settings message detail unclocked_consults
  exact h

theorem readings_of_revision {s t : List Call × Unit} {found : Findings} {now : Instant}
    (h : Run (Reconcile.revision services.collaborators settings message detail).run s
      (.ok (some (.list found now))) t) :
    Call.readings t.1 = Call.readings s.1 ++ [now] := by
  cases Reconcile.callsFor_of_revision h with
  | list _ _ hd _ =>
    unfold Reconcile.revision at h
    rw [hd] at h
    rcases h.of_exceptBind with ⟨e, -, he⟩ | ⟨found', u, hlook, h⟩
    · cases he
    have hsame : Call.readings u.1 = Call.readings s.1 := lookUp_sameReadings s _ u hlook
    rcases h.of_exceptBind with ⟨e, -, he⟩ | ⟨now', v, hclock, h⟩
    · cases he
    obtain ⟨read, hclock, hread⟩ := hclock.of_exceptLift
    obtain ⟨hr, rfl⟩ := h.of_exceptPure
    cases hread
    cases hr
    obtain ⟨-, ht⟩ := run_call hclock
    rw [ht, ← hsame]
    exact List.filterMap_append

end Services

end HearingSync
