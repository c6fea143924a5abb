import HearingSync.Proofs.Reconcile.Services
import HearingSync.Proofs.Store.OneCommit
/-!
The calls that are made for one message, whatever the services answer. Main statement: a message
that is refused makes no call; any other one fetches its hearing once, and then either ends or makes
one write to its case; and unless it reports a commit, the store in memory is as it was.
-/

namespace HearingSync

open Runs (Run)

/-- The calls of one write, and what comes of them. -/
inductive WriteCalls (id : CaseId) :
    WriteStrategy → List Call → Except ReconcileError WriteOutcome → Prop where
  | unread (e : StoreError) :
      WriteCalls id .readModifyWrite [.fetch id (.error e)] (.error (.store e))
  | failed (a : CaseSnapshot) (lookups : List Call) (e : ReconcileError) :
      (∀ call ∈ lookups, call.isLookup = true) →
      WriteCalls id .readModifyWrite (.fetch id (.ok a) :: lookups) (.error e)
  | submitted (a : CaseSnapshot) (lookups : List Call) (update : CaseUpdate)
      (answer : Except StoreError CaseSnapshot) : (∀ call ∈ lookups, call.isLookup = true) →
      WriteCalls id .readModifyWrite (.fetch id (.ok a) :: lookups ++ [.submit a update answer])
        ((answer.mapError .store).map fun committed => .committed committed.version update.event)
  | transacted (lookups : List Call) (asked : List (CaseSnapshot × Option CaseUpdate))
      (answer : Except StoreError (Option CaseSnapshot)) (last : CaseStore.LastRun) :
      (∀ call ∈ lookups, call.isLookup = true) → LastTold (.ok none) asked last →
      WriteCalls id .callback (lookups ++ [.transact id asked answer])
        (CaseStore.settle answer last)

def Call.isHearing : Call → Bool
  | .hearing _ _ => true
  | _ => false

theorem Call.not_isHearing_of_isLookup {call : Call} (h : call.isLookup = true) :
    call.isHearing = false := by
  cases call with
  | hearing id answer => cases h
  | _ => rfl

theorem WriteCalls.not_isHearing {id : CaseId} {strategy : WriteStrategy} {calls : List Call}
    {r : Except ReconcileError WriteOutcome} (h : WriteCalls id strategy calls r) :
    ∀ call ∈ calls, call.isHearing = false := by
  have hlookups {lookups : List Call} (hl : ∀ call ∈ lookups, call.isLookup = true) :
      ∀ call ∈ lookups, call.isHearing = false :=
    fun call hc => Call.not_isHearing_of_isLookup (hl call hc)
  cases h with
  | unread e => simp [Call.isHearing]
  | failed a lookups e hl => simpa [Call.isHearing] using hlookups hl
  | submitted a lookups update answer hl =>
    simpa [or_imp, forall_and, Call.isHearing] using hlookups hl
  | transacted lookups asked answer last hl =>
    simpa [or_imp, forall_and, Call.isHearing] using hlookups hl

/-- Only a transaction may come to nothing: it asked nothing, or did not do as it was told. -/
theorem WriteCalls.of_declined {id : CaseId} {strategy : WriteStrategy} {calls : List Call}
    (h : WriteCalls id strategy calls (.ok .declined)) :
    strategy = .callback ∧ ∃ lookups asked answer,
      calls = lookups ++ [.transact id asked answer] ∧
      (asked = [] ∨ answer = .ok none ∧
        ∃ earlier a update, asked = earlier ++ [(a, some update)]) := by
  generalize hr : (Except.ok .declined : Except ReconcileError WriteOutcome) = r at h
  cases h with
  | unread e => cases hr
  | failed a lookups e _ => cases hr
  | submitted a lookups update answer _ => cases answer <;> cases hr
  | transacted lookups asked answer last _ hlast =>
    refine ⟨rfl, lookups, asked, answer, rfl, ?_⟩
    cases hlast with
    | unasked => exact .inl rfl
    | failed earlier a e => cases hr
    | update earlier a update =>
      refine .inr ⟨?_, earlier, a, update, rfl⟩
      cases answer with
      | error e => cases hr
      | ok committed =>
        cases committed with
        | none => rfl
        | some b => cases hr

section Message

variable (settings : Settings) (message : HearingMessage)

inductive DetailCalls (detail : HearingDetail) :
    List Call → Except ReconcileError Outcome → Prop where
  | notActionable : detail.disposition.isActionable = false →
      DetailCalls detail [] (.ok (.notActionable detail.disposition))
  | badSchedule (e : ScheduleError) : detail.disposition.isListedUpdate = true →
      detail.singleSession = .error e → DetailCalls detail [] (.error (.schedule e))
  | written (calls : List Call) (r : Except ReconcileError WriteOutcome) : detail.CallsForWrite →
      WriteCalls message.caseId settings.strategy calls r →
      DetailCalls detail calls (r.map (WriteOutcome.outcome detail.disposition))

/-- The calls for a message, and what comes of them. -/
inductive MessageCalls : List Call → Except ReconcileError Outcome → Prop where
  | refused (reason : Refusal) : settings.gate.refusal? message = some reason →
      MessageCalls [] (.ok (.filtered reason))
  | unfetched (e : ClientError) : settings.gate.refusal? message = none →
      MessageCalls [.hearing message.hearingId (.error e)] (.error (.fetch message.hearingId e))
  | fetched (detail : HearingDetail) (rest : List Call) (result : Except ReconcileError Outcome) :
      settings.gate.refusal? message = none → DetailCalls settings message detail rest result →
      MessageCalls (.hearing message.hearingId (.ok detail) :: rest) result

variable {settings message} {detail : HearingDetail} {calls : List Call}
  {result : Except ReconcileError Outcome}

theorem DetailCalls.not_isHearing (h : DetailCalls settings message detail calls result) :
    ∀ call ∈ calls, call.isHearing = false := by
  cases h with
  | notActionable _ => exact fun _ h => by cases h
  | badSchedule e _ _ => exact fun _ h => by cases h
  | written _ r _ hw => exact hw.not_isHearing

theorem Disposition.isActionable_of_isListedUpdate {d : Disposition}
    (h : d.isListedUpdate = true) : d.isActionable = true := by
  cases d with
  | listedUpdate => rfl
  | _ => cases h

theorem DetailCalls.of_notActionable (h : DetailCalls settings message detail calls result)
    (ha : detail.disposition.isActionable = false) :
    calls = [] ∧ result = .ok (.notActionable detail.disposition) := by
  cases h with
  | notActionable _ => exact ⟨rfl, rfl⟩
  | badSchedule e hl _ =>
    rw [Disposition.isActionable_of_isListedUpdate hl] at ha
    cases ha
  | written _ r hd _ =>
    rw [hd.1] at ha
    cases ha

theorem DetailCalls.of_badSchedule (h : DetailCalls settings message detail calls result)
    {e : ScheduleError} (hl : detail.disposition.isListedUpdate = true)
    (he : detail.singleSession = .error e) : calls = [] ∧ result = .error (.schedule e) := by
  cases h with
  | notActionable ha =>
    rw [Disposition.isActionable_of_isListedUpdate hl] at ha
    cases ha
  | badSchedule e' _ he' =>
    cases he.symm.trans he'
    exact ⟨rfl, rfl⟩
  | written _ r hd _ =>
    obtain ⟨session, hs⟩ := hd.2 hl
    cases he.symm.trans hs

theorem DetailCalls.of_callsForWrite (h : DetailCalls settings message detail calls result)
    (hd : detail.CallsForWrite) : ∃ r, WriteCalls message.caseId settings.strategy calls r ∧
      result = r.map (WriteOutcome.outcome detail.disposition) := by
  cases h with
  | notActionable ha =>
    rw [hd.1] at ha
    cases ha
  | badSchedule e hl he =>
    obtain ⟨session, hs⟩ := hd.2 hl
    cases he.symm.trans hs
  | written _ r _ hw => exact ⟨r, hw, rfl⟩

theorem MessageCalls.of_refused (h : MessageCalls settings message calls result)
    {reason : Refusal} (hg : settings.gate.refusal? message = some reason) :
    calls = [] ∧ result = .ok (.filtered reason) := by
  cases h with
  | refused reason' hg' =>
    cases hg.symm.trans hg'
    exact ⟨rfl, rfl⟩
  | unfetched e hn => cases hg.symm.trans hn
  | fetched detail rest _ hn _ => cases hg.symm.trans hn

theorem MessageCalls.of_admitted (h : MessageCalls settings message calls result)
    (hg : settings.gate.refusal? message = none) :
    ∃ fetched rest, calls = .hearing message.hearingId fetched :: rest ∧
      (∀ e, fetched = .error e → rest = [] ∧ result = .error (.fetch message.hearingId e)) ∧
      ∀ detail, fetched = .ok detail → DetailCalls settings message detail rest result := by
  cases h with
  | refused reason hg' => cases hg.symm.trans hg'
  | unfetched e _ =>
    refine ⟨.error e, [], rfl, ?_, fun _ h => by cases h⟩
    rintro _ ⟨⟩
    exact ⟨rfl, rfl⟩
  | fetched detail rest _ _ hrest =>
    refine ⟨.ok detail, rest, rfl, ?_, ?_⟩
    · rintro _ ⟨⟩
    · rintro _ ⟨⟩
      exact hrest

/-- What is declined was written in vain, by a transaction. -/
theorem MessageCalls.of_declined {d : Disposition}
    (h : MessageCalls settings message calls (.ok (.declined d))) :
    settings.strategy = .callback ∧ ∃ before asked answer,
      calls = before ++ [.transact message.caseId asked answer] ∧
      (asked = [] ∨ answer = .ok none ∧
        ∃ earlier a update, asked = earlier ++ [(a, some update)]) := by
  cases h with
  | fetched detail rest _ _ hrest =>
    generalize hr : (Except.ok (.declined d) : Except ReconcileError Outcome) = result at hrest
    cases hrest with
    | notActionable _ => cases hr
    | badSchedule e _ _ => cases hr
    | written _ r _ hw =>
      have hdeclined : r = .ok .declined := by
        cases r with
        | error e => cases hr
        | ok outcome =>
          cases outcome with
          | committed version event => cases hr
          | declined => rfl
      obtain ⟨hs, lookups, asked, answer, rfl, h⟩ := (hdeclined ▸ hw).of_declined
      exact ⟨hs, .hearing message.hearingId (.ok detail) :: lookups, asked, answer, rfl, h⟩

end Message

namespace Services

variable (services : Services) (settings : Settings) (message : HearingMessage)

def receive : Except ReconcileError Outcome × List Call :=
  (HearingSync.receive services.collaborators settings message).run.run []

def receiveOver (store : MemoryStore) :
    (Except ReconcileError Outcome × MemoryStore) × List Call :=
  ((HearingSync.receive services.collaborators.overMemory settings message).run.run store).run []

variable {services settings message} {detail : HearingDetail} {s t u : List Call × Unit}

theorem run_transact (hd : detail.disposition.isActionable = true) {id : CaseId}
    {before after : CaseStore.LastRun} {answer : Except StoreError (Option CaseSnapshot)}
    (h : Run (services.caseStore.transact id (CaseStore.runNoted
      (Reconcile.mutation services.collaborators settings message detail))).run
        (before, s) answer (after, u)) :
    ∃ lookups asked, u.1 = s.1 ++ (lookups ++ [.transact id asked answer]) ∧
      (∀ call ∈ lookups, call.isLookup = true) ∧ LastTold before asked after := by
  obtain ⟨asked, ⟨last, v⟩, hhold, rfl, hu⟩ := hold_of_transact h
  obtain ⟨hlast, lookups, hv, hl⟩ := lastTold_of_hold hd hhold
  refine ⟨lookups, asked, ?_, hl, hlast⟩
  rw [hu, hv, List.append_assoc]

theorem writeCalls_of_run (hd : detail.disposition.isActionable = true)
    {strategy : WriteStrategy} {id : CaseId} {r : Except ReconcileError WriteOutcome}
    (h : Run (services.caseStore.write strategy id
      (Reconcile.mutation services.collaborators settings message detail)).run s r u) :
    ∃ calls, u.1 = s.1 ++ calls ∧ WriteCalls id strategy calls r := by
  have hlooked {a : CaseSnapshot} {decided} {v w : List Call × Unit}
      (hm : Run (Reconcile.mutation services.collaborators settings message detail a).run v decided
        w) := Reconcile.mutation_keeps settings message detail services.consults a v decided w hm
  cases strategy with
  | callback =>
    obtain ⟨answer, last, ht, rfl⟩ := CaseStore.transacted_of_run h
    obtain ⟨lookups, asked, hu, hl, hlast⟩ := run_transact hd ht
    exact ⟨_, hu, .transacted lookups asked answer last hl hlast⟩
  | readModifyWrite =>
    cases CaseStore.readAndWritten_of_run h with
    | unread e t hf =>
      obtain ⟨-, hu⟩ := run_call hf
      exact ⟨_, hu, .unread e⟩
    | failed a t e u hf hm =>
      obtain ⟨-, ht⟩ := run_call hf
      obtain ⟨lookups, hu, hl⟩ := hlooked hm
      exact ⟨.fetch id (.ok a) :: lookups, by simp [hu, ht], .failed a lookups e hl⟩
    | declined a t u hf hm => exact absurd rfl (Reconcile.mutation_ne_none hd hm)
    | submitted a t update v answer u hf hm hsub =>
      obtain ⟨-, ht⟩ := run_call hf
      obtain ⟨lookups, hv, hl⟩ := hlooked hm
      obtain ⟨-, hu⟩ := run_call hsub
      exact ⟨.fetch id (.ok a) :: lookups ++ [.submit a update answer], by simp [hu, hv, ht],
        .submitted a lookups update answer hl⟩

/-- What is done with a detail: nothing, or one write with its calls. -/
theorem calls_of_settled {result : Except ReconcileError Outcome}
    (h : Reconcile.Settled services.collaborators settings message Prod.fst detail s result u) :
    ∃ calls, u.1 = s.1 ++ calls ∧ DetailCalls settings message detail calls result := by
  cases h with
  | notActionable _ ha hu => exact ⟨[], by simp [hu], .notActionable ha⟩
  | badSchedule e _ hl he hu => exact ⟨[], by simp [hu], .badSchedule e hl he⟩
  | written r t _ hd hw hu =>
    obtain ⟨calls, ht, hcalls⟩ := writeCalls_of_run hd.1 hw
    exact ⟨calls, hu.trans ht, .written calls r hd hcalls⟩

variable (services settings message) in
theorem messageCalls_receive :
    MessageCalls settings message (services.receive settings message).2
      (services.receive settings message).1 := by
  have h : Run (HearingSync.receive services.collaborators settings message).run ([], ())
    (services.receive settings message).1 ((services.receive settings message).2, ()) := rfl
  rw [Reconcile.receive_eq] at h
  generalize services.receive settings message = p at h ⊢
  obtain ⟨result, calls⟩ := p
  cases hg : settings.gate.refusal? message with
  | some reason =>
    rw [hg] at h
    obtain ⟨rfl, hcalls⟩ := Reconcile.run_note_pure quiet h
    obtain rfl : calls = [] := hcalls
    exact .refused reason hg
  | none =>
    rw [hg] at h
    cases Reconcile.handled_of_process quiet h with
    | unfetched e t _ hf hu =>
      obtain rfl : calls = [.hearing message.hearingId (.error e)] := hu.trans (run_call hf).2
      exact .unfetched e hg
    | fetched detail t v _ _ hf hv hs =>
      obtain ⟨rest, hu, hrest⟩ := calls_of_settled hs
      have hstart : v.1 = [.hearing message.hearingId (.ok detail)] := hv.trans (run_call hf).2
      obtain rfl : calls = .hearing message.hearingId (.ok detail) :: rest := by
        rw [hstart] at hu
        exact hu
      exact .fetched detail rest result hg hrest

end Services

/-- No collaborator is called for a message that the gate refuses. For any other one the hearing is
fetched once; no more is called where that fails, where the statuses do not call for action and
where a listed hearing has a bad schedule, and else there is one write to the message's case. What
is to be acted upon is written, so nothing is declined but by the store, in a transaction. Over the
store in memory there is no change without a commit that is reported. -/
theorem call_discipline (services : Services) (settings : Settings) (message : HearingMessage) :
    (∀ reason, settings.gate.refusal? message = some reason →
      services.receive settings message = (.ok (.filtered reason), [])) ∧
    (settings.gate.refusal? message = none → ∃ fetched rest,
      (services.receive settings message).2 = .hearing message.hearingId fetched :: rest ∧
      (∀ call ∈ rest, call.isHearing = false) ∧
      (∀ e, fetched = .error e → rest = [] ∧
        (services.receive settings message).1 = .error (.fetch message.hearingId e)) ∧
      ∀ detail, fetched = .ok detail →
        (detail.disposition.isActionable = false → rest = [] ∧
          (services.receive settings message).1 = .ok (.notActionable detail.disposition)) ∧
        (∀ e, detail.disposition.isListedUpdate = true → detail.singleSession = .error e →
          rest = [] ∧ (services.receive settings message).1 = .error (.schedule e)) ∧
        (detail.CallsForWrite → ∃ r, WriteCalls message.caseId settings.strategy rest r ∧
          (services.receive settings message).1 =
            r.map (WriteOutcome.outcome detail.disposition))) ∧
    (∀ (detail : HearingDetail) (a : CaseSnapshot) (calls : List Call),
      detail.disposition.isActionable = true →
      ((Reconcile.mutation services.collaborators settings message detail a).run.run calls).1 ≠
        .ok none) ∧
    (∀ d, (services.receive settings message).1 = .ok (.declined d) →
      settings.strategy = .callback ∧ ∃ before asked answer,
        (services.receive settings message).2 =
          before ++ [.transact message.caseId asked answer] ∧
        (asked = [] ∨ answer = .ok none ∧
          ∃ earlier a update, asked = earlier ++ [(a, some update)])) ∧
    ∀ store : MemoryStore,
      ((∀ d event version,
          (services.receiveOver settings message store).1.1 ≠ .ok (.committed d event version)) →
        (services.receiveOver settings message store).1.2 = store) ∧
      store.HandledFor message.caseId (services.receiveOver settings message store).1.1
        (services.receiveOver settings message store).1.2 := by
  have hcalls := services.messageCalls_receive settings message
  have hstore (store : MemoryStore) : store.HandledFor message.caseId
      (services.receiveOver settings message store).1.1
      (services.receiveOver settings message store).1.2 := by
    have h : Run (HearingSync.receive services.collaborators.overMemory settings message).run
      (store, [], ()) (services.receiveOver settings message store).1.1
      ((services.receiveOver settings message store).1.2,
        (services.receiveOver settings message store).2, ()) := rfl
    exact MemoryStore.handledFor_of_receive h
  refine ⟨?_, ?_, ?_, ?_, fun store => ⟨(hstore store).eq_of_not_committed, hstore store⟩⟩
  · intro reason hg
    obtain ⟨hnone, hr⟩ := hcalls.of_refused hg
    exact Prod.ext hr hnone
  · intro hg
    obtain ⟨fetched, rest, hrest, herror, hok⟩ := hcalls.of_admitted hg
    refine ⟨fetched, rest, hrest, ?_, herror, fun detail hd => ?_⟩
    · cases fetched with
      | error e =>
        rw [(herror e rfl).1]
        exact fun _ h => by cases h
      | ok detail => exact (hok detail rfl).not_isHearing
    · have hd := hok detail hd
      exact ⟨hd.of_notActionable, fun e => hd.of_badSchedule, hd.of_callsForWrite⟩
  · intro detail a calls hd
    have h : Run (Reconcile.mutation services.collaborators settings message detail a).run
      (calls, ()) _ (_, ()) := rfl
    exact Reconcile.mutation_ne_none hd h
  · intro d hr
    exact (hr ▸ hcalls).of_declined

end HearingSync
