import HearingSync.Proofs.Delivery.Handling
import HearingSync.Proofs.Reconcile.CallDiscipline
/-!
What the handling of a message does not look at. Two handlings that differ only there are the same
program, so that they come to the same result, write the same and call the same, whatever the store
and the services are. Main statement: of a message only its case and its hearing count, of a detail
that lists nothing the schedule does not count, reasons count for a cancellation only, and the
status of the listing does not count where the request is cancelled or has failed.
-/

namespace HearingSync

open Runs (Run)

section Programs

variable {m : Type → Type} [Monad m]

def Note.statusDiffers : Note := .log .warn "reported status differs from HMC, using HMC status"

def Collaborators.muting (c : Collaborators m) (muted : Note) : Collaborators m :=
  { c with note := fun n => if n = muted then pure () else c.note n }

/-- The same collaborators, where a fetch of a hearing fails as before or else gives this detail. -/
def Collaborators.fetching (c : Collaborators m) (d : HearingDetail) : Collaborators m :=
  { c with hearing := fun id => (fun _ => d) <$> c.hearing id }

/-- Nothing that is done with one detail tells it from the other. -/
structure HearingDetail.Alike (d e : HearingDetail) : Prop where
  hearingId : d.hearingId = e.hearingId
  status : d.status = e.status
  disposition : d.disposition = e.disposition
  event : ∀ policy state,
    d.status.rule.event? (d.eventContext policy state) =
      e.status.rule.event? (e.eventContext policy state)
  session : d.disposition = .listedUpdate → d.singleSession = e.singleSession

namespace HearingDetail

variable {d : HearingDetail}

theorem alike_of_sessions (hd : d.disposition ≠ .listedUpdate) (sessions : List Session) :
    d.Alike { d with sessions } where
  hearingId := rfl
  status := rfl
  disposition := rfl
  event _ _ := rfl
  session hl := absurd hl hd

/-- Only the rule of a cancelled request asks for the reasons. -/
theorem alike_of_reasons (hd : d.status ≠ .cancelled) (reasons : List CancellationReason) :
    d.Alike { d with reasons } where
  hearingId := rfl
  status := rfl
  disposition := rfl
  event policy state := by
    cases hs : d.status with
    | cancelled => exact absurd hs hd
    | _ => rfl
  session _ := rfl

/-- The status of the listing matters to no rule but that of a listed request, and to the
classification only where it is relevant. -/
theorem alike_of_listing (hd : d.status = .cancelled ∨ d.status = .exception)
    (listing : Option ListingStatus) : d.Alike { d with listing } where
  hearingId := rfl
  status := rfl
  disposition := by
    unfold disposition
    rcases hd with hd | hd <;> rw [hd] <;> rfl
  event policy state := by rcases hd with hd | hd <;> rw [hd] <;> rfl
  session _ := rfl

end HearingDetail

namespace Reconcile

variable {c : Collaborators m} {r : ReferenceData m} (s : Settings) (message : HearingMessage)
  {d e : HearingDetail}

theorem resolve_alike (h : d.Alike e) (hl : d.disposition = .listedUpdate)
    (note : Note → m Unit) (panelEnabled : Bool) (caseId : CaseId) (hearings : List Hearing)
    (previous : WorkBasket) :
    ListedUpdate.resolve r note panelEnabled caseId d hearings previous =
      ListedUpdate.resolve r note panelEnabled caseId e hearings previous := by
  unfold ListedUpdate.resolve
  rw [h.session hl, h.hearingId]

/-- Reference data count only where a hearing is to be listed. -/
theorem revise_alike (h : d.Alike e) (hr : d.disposition = .listedUpdate → c.reference = r)
    (data : CaseData) :
    revise c s message d data = revise { c with reference := r } s message e data := by
  unfold revise
  rw [← h.disposition, ← h.status, ← h.hearingId]
  cases hd : d.disposition with
  | listedUpdate => simp only [hr hd, resolve_alike h hd]
  | cancelledInListing => rfl
  | terminalCancellation => rfl
  | failure => rfl
  | notActionable reason => rfl

theorem mutation_alike (h : d.Alike e) (hr : d.disposition = .listedUpdate → c.reference = r) :
    mutation c s message d = mutation { c with reference := r } s message e := by
  funext a
  have hevent (type : WorkflowEvent) : d.caseEvent type = e.caseEvent type := by
    unfold HearingDetail.caseEvent
    rw [h.status, h.hearingId]
  unfold mutation
  rw [h.event, revise_alike s message h hr, h.status]
  simp only [hevent]

theorem settle_alike (h : d.Alike e) (hr : d.disposition = .listedUpdate → c.reference = r) :
    settle c s message d = settle { c with reference := r } s message e := by
  unfold settle
  rw [mutation_alike s message h hr, ← h.disposition]
  by_cases hl : d.disposition = .listedUpdate
  · rw [h.session hl]
  · have hl : d.disposition.isListedUpdate = false := by
      cases hd : d.disposition with
      | listedUpdate => exact absurd hd hl
      | _ => rfl
    simp only [hl]
    rfl

variable [LawfulMonad m]

theorem adapt_map {ε ε' α β : Type} (f : α → β) (g : ε → ε') (x : ExceptT ε m α) :
    (f <$> x).adapt g = f <$> x.adapt g := by
  refine ExceptT.ext ?_
  have hl : ((f <$> x).adapt g).run = Except.mapError g <$> (f <$> x).run := rfl
  have hr : (f <$> x.adapt g).run = Except.map f <$> Except.mapError g <$> x.run :=
    ExceptT.run_map _ _
  rw [hl, hr, ExceptT.run_map, Functor.map_map, Functor.map_map]
  refine congrArg (· <$> x.run) (funext fun answer => ?_)
  cases answer <;> rfl

theorem fetching_bind {α : Type} (id : HearingId) (f : HearingDetail → ExceptT ReconcileError m α) :
    (((c.fetching d).hearing id).adapt (.fetch id) >>= f) =
      (c.hearing id).adapt (.fetch id) >>= fun _ => f d := by
  have hmap : ((c.fetching d).hearing id).adapt (ReconcileError.fetch id) =
      (fun _ => d) <$> (c.hearing id).adapt (.fetch id) := adapt_map _ _ _
  rw [hmap, bind_map_left]

theorem reconcile_alike (h : d.Alike e) (hr : d.disposition = .listedUpdate → c.reference = r) :
    reconcile (c.fetching d) s message =
      reconcile ({ c with reference := r }.fetching e) s message := by
  unfold reconcile
  rw [fetching_bind, fetching_bind]
  refine bind_congr fun _ => ?_
  have hsettle : settle (c.fetching d) s message d =
      settle ({ c with reference := r }.fetching e) s message e :=
    settle_alike s message h hr
  rw [h.status, hsettle]
  rfl

theorem process_alike (h : d.Alike e) (hr : d.disposition = .listedUpdate → c.reference = r) :
    process (c.fetching d) s message =
      process ({ c with reference := r }.fetching e) s message := by
  unfold process
  rw [reconcile_alike s message h hr]
  rfl

/-- Of a message its case and its hearing are used, and its status for a remark. -/
theorem reconcile_of_message {first second : HearingMessage} (hcase : first.caseId = second.caseId)
    (hhearing : first.hearingId = second.hearingId) :
    reconcile (c.muting .statusDiffers) s first = reconcile (c.muting .statusDiffers) s second := by
  have hmuted : (c.muting .statusDiffers).note .statusDiffers = pure () := by
    simp [Collaborators.muting]
  have hremark (differs : Prop) [Decidable differs] (x : ExceptT ReconcileError m Outcome) :
      (do
        if differs then (c.muting .statusDiffers).note .statusDiffers
        x) = x := by
    by_cases hd : differs <;> simp [hd, hmuted]
  have hmutation (detail : HearingDetail) :
      mutation (c.muting .statusDiffers) s first detail =
        mutation (c.muting .statusDiffers) s second detail := by
    unfold mutation revise
    rw [hcase]
  have hsettle (detail : HearingDetail) :
      settle (c.muting .statusDiffers) s first detail =
        settle (c.muting .statusDiffers) s second detail := by
    unfold settle
    rw [hcase, hmutation]
  unfold reconcile
  rw [hhearing]
  refine bind_congr fun detail => ?_
  exact (hremark _ _).trans ((hsettle detail).trans (hremark _ _).symm)

theorem receive_of_message {first second : HearingMessage}
    (hfirst : s.gate.refusal? first = none) (hsecond : s.gate.refusal? second = none)
    (hcase : first.caseId = second.caseId) (hhearing : first.hearingId = second.hearingId) :
    receive (c.muting .statusDiffers) s first = receive (c.muting .statusDiffers) s second := by
  unfold receive process
  rw [hfirst, hsecond, reconcile_of_message s hcase hhearing]

end Reconcile

theorem Collaborators.muting_of_mute {c : Collaborators m} {muted : Note}
    (h : c.note muted = pure ()) : c.muting muted = c := by
  have hnote : (fun n => if n = muted then pure () else c.note n) = c.note := by
    funext n
    by_cases hn : n = muted
    · rw [if_pos hn, hn, h]
    · rw [if_neg hn]
  unfold muting
  rw [hnote]

end Programs

section Ledger

def SameLookups (s t : List Call × Unit) : Prop :=
  t.1.filter Call.isLookup = s.1.filter Call.isLookup

instance : IsPreorder (List Call × Unit) SameLookups where
  refl _ := rfl
  trans _ _ _ hst htu := htu.trans hst

variable {services : Services} {settings : Settings} {message : HearingMessage}
  {detail : HearingDetail} {s t u : List Call × Unit}

theorem sameLookups_of_call {α : Type} {answer : List Call → α} {entry : α → Call}
    (hentry : ∀ a, (entry a).isLookup = false) :
    Keeps SameLookups (Recorded.call answer entry) := by
  intro s a t h
  obtain ⟨-, ht⟩ := run_call h
  unfold SameLookups
  rw [ht, List.filter_append, List.filter_cons_of_neg (by simp [hentry a]), List.filter_nil,
    List.append_nil]

theorem sameLookups_of_mutation (hd : detail.disposition ≠ .listedUpdate) (a : CaseSnapshot) :
    Keeps SameLookups
      (Reconcile.mutation services.collaborators settings message detail a).run := by
  have hrevision : Keeps SameLookups
      (Reconcile.revision services.collaborators settings message detail).run := by
    unfold Reconcile.revision
    cases hk : detail.disposition with
    | listedUpdate => exact absurd hk hd
    | cancelledInListing => exact .exceptPure _
    | terminalCancellation => exact .exceptPure _
    | failure => exact .exceptPure _
    | notActionable reason => exact .exceptPure _
  intro s decided t h
  rw [Reconcile.mutation_eq_revision, ExceptT.run_map] at h
  obtain ⟨answer, hanswer, -⟩ := h.of_map
  exact hrevision s answer t hanswer

theorem sameLookups_of_hold {question : CaseSnapshot → StateT CaseStore.LastRun Recorded
      (Option CaseUpdate)} (hq : ∀ a, Keeps (fun p q => SameLookups p.2 q.2) (question a))
    (dialogue : Dialogue) : Keeps (fun p q => SameLookups p.2 q.2) (dialogue.hold question) := by
  induction dialogue with
  | ends answer =>
    intro p e q h
    obtain ⟨-, rfl⟩ := Runs.of_pure h
    exact refl_of SameLookups q.2
  | asks a next ih =>
    intro p e q h
    obtain ⟨told, p', hask, hrest⟩ := Runs.of_bind h
    obtain ⟨rest, q', hnext, hp⟩ := Runs.of_bind hrest
    obtain ⟨-, rfl⟩ := Runs.of_pure hp
    exact trans_of SameLookups (hq a p told p' hask) (ih told p' rest q hnext)

theorem sameLookups_of_transact {question : CaseSnapshot → StateT CaseStore.LastRun Recorded
      (Option CaseUpdate)} (hq : ∀ a, Keeps (fun p q => SameLookups p.2 q.2) (question a))
    {id : CaseId} {answer : Except StoreError (Option CaseSnapshot)}
    {p q : CaseStore.LastRun × List Call × Unit}
    (h : Run (services.caseStore.transact id question).run p answer q) :
    SameLookups p.2 q.2 := by
  obtain ⟨asked, r, hhold, -, hq'⟩ := Services.hold_of_transact h
  have hsame : SameLookups p.2 r.2 := sameLookups_of_hold hq _ p (asked, answer) r hhold
  unfold SameLookups at hsame ⊢
  rw [hq', List.filter_append, hsame]
  exact List.append_nil _

theorem sameLookups_of_write (hd : detail.disposition ≠ .listedUpdate) {strategy : WriteStrategy}
    {id : CaseId} : Keeps SameLookups (services.caseStore.write strategy id
      (Reconcile.mutation services.collaborators settings message detail)).run := by
  have hmutation (a : CaseSnapshot) : Keeps SameLookups
      (Reconcile.mutation services.collaborators settings message detail a).run :=
    sameLookups_of_mutation hd a
  intro s r u h
  cases strategy with
  | callback =>
    obtain ⟨answer, last, ht, -⟩ := CaseStore.transacted_of_run h
    refine sameLookups_of_transact (fun a p told q hask => ?_) ht
    obtain ⟨decided, hm, -⟩ := CaseStore.run_of_runNoted hask
    exact hmutation a p.2 decided q.2 hm
  | readModifyWrite =>
    have hfetch {answer : Except StoreError CaseSnapshot} {t : List Call × Unit}
        (h : Run (services.caseStore.fetch id).run s answer t) : SameLookups s t :=
      sameLookups_of_call (fun _ => rfl) s answer t h
    cases CaseStore.readAndWritten_of_run h with
    | unread e t hf => exact hfetch hf
    | failed a t e u hf hm => exact trans_of SameLookups (hfetch hf) (hmutation a t _ u hm)
    | declined a t u hf hm => exact trans_of SameLookups (hfetch hf) (hmutation a t _ u hm)
    | submitted a t update v answer u hf hm hsub =>
      have hsub : SameLookups v u := sameLookups_of_call (fun _ => rfl) v answer u hsub
      exact trans_of SameLookups (trans_of SameLookups (hfetch hf) (hmutation a t _ v hm)) hsub

/-- Services that keep no log handle the two messages alike, with a store of theirs or one in
memory, to the last call. -/
theorem Services.receive_of_message {first second : HearingMessage}
    (hfirst : settings.gate.refusal? first = none) (hsecond : settings.gate.refusal? second = none)
    (hcase : first.caseId = second.caseId) (hhearing : first.hearingId = second.hearingId) :
    services.receive settings first = services.receive settings second ∧
      ∀ store, services.receiveOver settings first store =
        services.receiveOver settings second store := by
  have hserved : HearingSync.receive services.collaborators settings first =
      HearingSync.receive services.collaborators settings second := by
    have hmute : services.collaborators.note .statusDiffers = pure () := rfl
    rw [← Collaborators.muting_of_mute hmute]
    exact Reconcile.receive_of_message settings hfirst hsecond hcase hhearing
  have hover : HearingSync.receive services.collaborators.overMemory settings first =
      HearingSync.receive services.collaborators.overMemory settings second := by
    have hmute : services.collaborators.overMemory.note .statusDiffers = pure () := rfl
    rw [← Collaborators.muting_of_mute hmute]
    exact Reconcile.receive_of_message settings hfirst hsecond hcase hhearing
  unfold Services.receive Services.receiveOver
  rw [hserved, hover]
  exact ⟨rfl, fun _ => rfl⟩

/-- Nothing is looked up for a hearing that is not to be listed. -/
theorem no_lookup_of_process (hf : services.hearing [] message.hearingId = .ok detail)
    (hd : detail.disposition ≠ .listedUpdate) :
    ∀ call ∈ ((process services.collaborators settings message).run.run []).2,
      call.isLookup = false := by
  have h : Run (process services.collaborators settings message).run ([], ())
    ((process services.collaborators settings message).run.run []).1
    (((process services.collaborators settings message).run.run []).2, ()) := rfl
  generalize (process services.collaborators settings message).run.run [] = p at h ⊢
  obtain ⟨result, calls⟩ := p
  have hnone : calls.filter Call.isLookup = [] := by
    cases Reconcile.handled_of_process Services.quiet h with
    | unfetched e t _ hrun _ => cases hf.symm.trans (run_call hrun).1.symm
    | fetched found t v _ _ hrun hv hs =>
      obtain ⟨hfound, ht⟩ := run_call hrun
      cases hf.symm.trans hfound.symm
      have hstart : v.1.filter Call.isLookup = [] := by
        rw [hv, ht]
        rfl
      cases hs with
      | notActionable _ _ hu => exact (congrArg (List.filter _) hu).trans hstart
      | badSchedule e _ _ _ hu => exact (congrArg (List.filter _) hu).trans hstart
      | written r w _ _ hw hu =>
        have hsame : SameLookups v w := sameLookups_of_write hd v r w hw
        exact (congrArg (List.filter _) hu).trans (hsame.trans hstart)
  simpa [List.filter_eq_nil_iff] using hnone

end Ledger

/-- Two messages that are let in are handled alike if they name the same case and the same hearing,
but for a remark on the status that they report; services that keep no log handle them as if they
were one. A detail that is no listed update is handled alike whatever its sessions and the reference
data are, and nothing is looked up for it. Reasons count only where the request is cancelled, and
the status of the listing does not count where the request is cancelled or has failed. The equations
are between programs of a monad of any kind: with the result they are about the store and all calls
of services. -/
theorem only_authoritative_facts {m : Type → Type} [Monad m] [LawfulMonad m] (c : Collaborators m)
    (s : Settings) :
    (∀ first second : HearingMessage,
      s.gate.refusal? first = none → s.gate.refusal? second = none →
      first.caseId = second.caseId → first.hearingId = second.hearingId →
      receive (c.muting .statusDiffers) s first = receive (c.muting .statusDiffers) s second ∧
      ∀ services : Services, services.receive s first = services.receive s second ∧
        ∀ store, services.receiveOver s first store = services.receiveOver s second store) ∧
    (∀ (message : HearingMessage) (d : HearingDetail) (sessions : List Session)
        (reference : ReferenceData m), d.disposition ≠ .listedUpdate →
      process (c.fetching d) s message =
        process ({ c with reference }.fetching { d with sessions }) s message) ∧
    (∀ (services : Services) (message : HearingMessage) (d : HearingDetail),
      services.hearing [] message.hearingId = .ok d → d.disposition ≠ .listedUpdate →
      ∀ call ∈ ((process services.collaborators s message).run.run []).2, call.isLookup = false) ∧
    (∀ (message : HearingMessage) (d : HearingDetail) (reasons : List CancellationReason),
      d.status ≠ .cancelled →
      process (c.fetching d) s message = process (c.fetching { d with reasons }) s message) ∧
    ∀ (message : HearingMessage) (d : HearingDetail) (listing : Option ListingStatus),
      d.status = .cancelled ∨ d.status = .exception →
      process (c.fetching d) s message = process (c.fetching { d with listing }) s message := by
  refine ⟨?_, ?_, ?_, ?_, ?_⟩
  · intro first second hfirst hsecond hcase hhearing
    exact ⟨Reconcile.receive_of_message s hfirst hsecond hcase hhearing,
      fun services => Services.receive_of_message hfirst hsecond hcase hhearing⟩
  · intro message d sessions reference hd
    exact Reconcile.process_alike s message (d.alike_of_sessions hd sessions)
      fun hl => absurd hl hd
  · intro services message d hf hd
    exact no_lookup_of_process hf hd
  · intro message d reasons hd
    exact Reconcile.process_alike s message (d.alike_of_reasons hd reasons) fun _ => rfl
  · intro message d listing hd
    exact Reconcile.process_alike s message (d.alike_of_listing hd listing) fun _ => rfl

namespace Rehearsal

def otherReport : HearingMessage :=
  { listingMessage with reportedStatus := .closed, deploymentId := some "preview" }

def failedListing : HearingDetail := { listedHearing with status := .exception }

def halfSession : Session :=
  { start := none, finish := none, venue := some hearingRoom, judge := none, panelMembers := []
    channel := none }

def leeds : Collaborators (StateT MemoryStore Rehearse) := (collaborators oneVenue).overMemory

def nowhere : ReferenceData (StateT MemoryStore Rehearse) where
  venue? _ := pure none
  judge? _ := pure none
  now := pure oneVenue.now

def failedDelivery : Delivery :=
  .steady {} listingMessage.caseId failedListing ⟨"12", "Leeds", none⟩ oneVenue.now

theorem only_authoritative_facts_failed :
    (({} : Settings).gate.refusal? listingMessage = none ∧
      ({} : Settings).gate.refusal? otherReport = none ∧
      listingMessage.caseId = otherReport.caseId ∧
      listingMessage.hearingId = otherReport.hearingId ∧
      receive (leeds.muting .statusDiffers) {} listingMessage =
        receive (leeds.muting .statusDiffers) {} otherReport ∧
      failedDelivery.services.receiveOver {} listingMessage MemoryStore.oneCase =
        failedDelivery.services.receiveOver {} otherReport MemoryStore.oneCase) ∧
    (failedListing.disposition ≠ .listedUpdate ∧
      process (leeds.fetching failedListing) {} listingMessage =
        process ({ leeds with reference := nowhere }.fetching
          { failedListing with sessions := [halfSession, halfSession] }) {} listingMessage) ∧
    (failedDelivery.services.hearing [] listingMessage.hearingId = .ok failedListing ∧
      ∀ call ∈ ((process failedDelivery.services.collaborators {} listingMessage).run.run []).2,
        call.isLookup = false) ∧
    (failedListing.status ≠ .cancelled ∧
      process (leeds.fetching failedListing) {} listingMessage =
        process (leeds.fetching { failedListing with reasons := [.withdrawn] }) {}
          listingMessage) ∧
    failedListing.status = .exception ∧
      process (leeds.fetching failedListing) {} listingMessage =
        process (leeds.fetching { failedListing with listing := none }) {} listingMessage := by
  have hadmitted : ({} : Settings).gate.refusal? listingMessage = none := by decide
  have hother : ({} : Settings).gate.refusal? otherReport = none := by decide
  have hd : failedListing.disposition ≠ .listedUpdate := by decide
  have hs : failedListing.status ≠ .cancelled := by decide
  have hf : failedDelivery.services.hearing [] listingMessage.hearingId = .ok failedListing := rfl
  obtain ⟨hmessage, hsessions, hlookups, hreasons, hlisting⟩ := only_authoritative_facts leeds {}
  obtain ⟨hprogram, hservices⟩ := hmessage _ _ hadmitted hother rfl rfl
  exact ⟨⟨hadmitted, hother, rfl, rfl, hprogram, (hservices failedDelivery.services).2 _⟩,
    ⟨hd, hsessions _ _ _ _ hd⟩, ⟨hf, hlookups _ _ _ hf hd⟩, ⟨hs, hreasons _ _ _ hs⟩,
    rfl, hlisting _ _ _ (.inr rfl)⟩

end Rehearsal

end HearingSync
