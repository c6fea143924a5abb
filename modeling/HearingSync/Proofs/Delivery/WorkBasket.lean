import HearingSync.Proofs.Delivery.Redelivery
import HearingSync.Proofs.Reconcile.ClockReadings
/-!
The work basket of a case over a run of messages. A commit of a listing fills the basket and keeps
the stamp that is there; any other commit clears it. Main statement: after a run the basket tells of
the last commit, and its stamp is the time of the first listing after the last clearing.
-/

namespace HearingSync

open Runs (Run)

namespace MemoryStore

/-- Where the case is found, all that a write does besides is done by the mutation. -/
theorem mutation_of_run {n : Type → Type} [Monad n] [LawfulMonad n] {σ : Type} [Runs n σ]
    {store store' : MemoryStore} {id : CaseId} {a : CaseSnapshot} {s t : σ}
    {strategy : WriteStrategy} {mutation : Mutation n} {r : Except ReconcileError WriteOutcome}
    (hs : store.cases.UnderOwnIds) (ha : store.fetch id = .ok a)
    (h : Run ((caseStore (m := StateT MemoryStore n)).write strategy id mutation.overMemory).run
      (store, s) r (store', t)) : ∃ answer, Run (mutation a).run s answer t := by
  have h : Run (store.write strategy id mutation) s (r, store') t := h
  rw [write_eq_writeAtOnce hs, writeAtOnce, ha] at h
  obtain ⟨answer, hm, -⟩ := h.of_map
  exact ⟨answer, hm⟩

end MemoryStore

namespace Delivery

variable {d : Delivery} {s : MemoryStore} {id : CaseId} {a : CaseSnapshot} {detail : HearingDetail}

def calls (d : Delivery) (s : MemoryStore) : List Call :=
  ((s.process d.services.collaborators d.settings d.message).run []).2

def readings (d : Delivery) (s : MemoryStore) : List Instant := Call.readings (d.calls s)

theorem revision_of_change {r : Revision} (h : d.change? = some (detail, r)) {calls : List Call}
    {answer : Except ReconcileError (Option CaseUpdate)}
    (hm : Run (Reconcile.mutation d.services.collaborators d.settings d.message detail a).run
      ([.hearing d.message.hearingId (.ok detail)], ()) answer (calls, ())) :
    Run (Reconcile.revision d.services.collaborators d.settings d.message detail).run
      ([.hearing d.message.hearingId (.ok detail)], ()) (.ok (some r)) (calls, ()) := by
  rw [Reconcile.mutation_eq_revision, ExceptT.run_map] at hm
  obtain ⟨revised, hr, -⟩ := hm.of_map
  have hrevised : revised = d.revision detail := (Prod.mk.inj hr).1
  rw [(change?_eq_some_iff.mp h).2] at hrevised
  exact hrevised ▸ hr

theorem readings_of_change (hs : s.cases.UnderOwnIds) {found : Findings} {now : Instant}
    (h : d.change? = some (detail, .list found now)) (ha : s.fetch d.message.caseId = .ok a) :
    d.readings s = [now] := by
  obtain ⟨hfetched, hrevision⟩ := change?_eq_some_iff.mp h
  obtain ⟨update, -, ht⟩ := handle_of_change hs h ha
  have hrun : Run (process d.services.collaborators.overMemory d.settings d.message).run (s, [], ())
    (d.handle s).1 ((d.handle s).2, d.calls s, ()) := rfl
  rw [ht] at hrun
  generalize hresult : (Except.ok _ : Except ReconcileError Outcome) = result at hrun
  cases Reconcile.handled_of_process quiet_services hrun with
  | unfetched e t _ hf hp => cases hresult
  | fetched detail' t v _ _ hf hv hsettled =>
    obtain ⟨hdetail, rfl⟩ := fetched_of_run hf
    cases hfetched.symm.trans hdetail.symm
    obtain rfl : v = (s, [.hearing d.message.hearingId (.ok detail)], ()) := hv
    cases hsettled with
    | notActionable _ _ _ => cases hresult
    | badSchedule e _ _ _ _ => cases hresult
    | written r t _ hd hw hp =>
      rw [mutation_overMemory] at hw
      obtain ⟨store, calls, ⟨⟩⟩ := t
      obtain ⟨-, hcalls⟩ := Prod.mk.inj (show (_, d.calls s, ()) = (store, calls, ()) from hp)
      obtain ⟨answer, hm⟩ := MemoryStore.mutation_of_run hs ha hw
      have hreadings := Services.readings_of_revision (revision_of_change h hm)
      rw [readings, (Prod.mk.inj hcalls).1]
      exact hreadings

/-- A commit on a case: the detail that was fetched for it, and what the clock showed. -/
structure Commit where
  detail : HearingDetail
  readings : List Instant

def Commit.isListing (c : Commit) : Bool := c.detail.disposition.isListedUpdate

def commit? (d : Delivery) (id : CaseId) (s : MemoryStore) : Option Commit :=
  match d.fetched, (d.handle s).1 with
  | .ok detail, .ok (.committed _ _ _) =>
    if d.message.caseId = id then some ⟨detail, d.readings s⟩ else none
  | _, _ => none

def commits (id : CaseId) : List Delivery → MemoryStore → List Commit
  | [], _ => []
  | d :: ds, s => (d.commit? id s).toList ++ commits id ds (d.handle s).2

/-- What a commit makes of the basket that it finds. -/
inductive Commit.Sets (c : Commit) (before : WorkBasket) : WorkBasket → Prop where
  | listed (session : ListedSession) (now : Instant) : c.isListing = true →
      c.detail.singleSession = .ok session → c.readings = [now] →
      c.Sets before (.listed session.venue session.start.toLondon before now)
  | cleared : c.isListing = false → c.Sets before .cleared

inductive Baskets : WorkBasket → List Commit → WorkBasket → Prop where
  | nil (b : WorkBasket) : Baskets b [] b
  | cons {b b' b'' : WorkBasket} {c : Commit} {cs : List Commit} : c.Sets b b' →
      Baskets b' cs b'' → Baskets b (c :: cs) b''

/-- What a basket tells of the commits since it was seeded. -/
structure TellsOf (seed : WorkBasket) (cs : List Commit) (b : WorkBasket) : Prop where
  unchanged : cs = [] → b = seed
  cleared : ∀ c, cs.getLast? = some c → c.isListing = false →
    b.date = none ∧ b.venueCode = none ∧ b.issued = none
  listed : ∀ c, cs.getLast? = some c → c.isListing = true → ∃ session,
    c.detail.singleSession = .ok session ∧ b.date = some session.start.toLondon.date ∧
      b.venueCode = some session.venue ∧ b.issued.isSome = true
  issued : ∀ earlier first rest, cs = earlier ++ first :: rest →
    (∀ c ∈ first :: rest, c.isListing = true) →
    (∀ c, earlier.getLast? = some c → c.isListing = false) → ∃ now, first.readings = [now] ∧
      b.issued = some ((if earlier.isEmpty then seed.issued else none).getD
        now.toLondon.issuedText)

section Baskets

variable {seed b : WorkBasket} {c : Commit} {cs earlier rest : List Commit}

theorem Commit.Sets.cleared_of_not_listing (h : c.Sets seed b) (hc : c.isListing = false) :
    b = .cleared := by
  cases h with
  | listed session now hl _ _ => cases hc.symm.trans hl
  | cleared _ => rfl

theorem Commit.Sets.listed_of_listing (h : c.Sets seed b) (hc : c.isListing = true) :
    ∃ session now, c.detail.singleSession = .ok session ∧ c.readings = [now] ∧
      b = .listed session.venue session.start.toLondon seed now := by
  cases h with
  | listed session now _ hs hr => exact ⟨session, now, hs, hr, rfl⟩
  | cleared hn => cases hc.symm.trans hn

theorem Baskets.append (h : Baskets seed (earlier ++ rest) b) :
    ∃ middle, Baskets seed earlier middle ∧ Baskets middle rest b := by
  induction earlier generalizing seed with
  | nil => exact ⟨seed, .nil seed, h⟩
  | cons c earlier ih =>
    cases h with
    | cons hc hrest =>
      obtain ⟨middle, hearlier, hrest⟩ := ih hrest
      exact ⟨middle, .cons hc hearlier, hrest⟩

theorem Baskets.last (h : Baskets seed cs b) (hc : cs.getLast? = some c) :
    ∃ before, c.Sets before b := by
  obtain ⟨earlier, rfl⟩ := List.getLast?_eq_some_iff.mp hc
  obtain ⟨before, -, hlast⟩ := h.append
  cases hlast with
  | cons hsets hnil =>
    cases hnil
    exact ⟨before, hsets⟩

/-- Listings leave a stamp that is there. -/
theorem Baskets.issued_kept (h : Baskets seed cs b) (hl : ∀ c ∈ cs, c.isListing = true)
    {stamp : String} (hs : seed.issued = some stamp) : b.issued = some stamp := by
  induction h with
  | nil _ => exact hs
  | cons hc _ ih =>
    refine ih (fun c hmem => hl c (.tail _ hmem)) ?_
    obtain ⟨session, now, -, -, rfl⟩ := hc.listed_of_listing (hl _ (.head _))
    simp [WorkBasket.listed, hs]

/-- The stamp that the first listing of a block finds. -/
theorem Baskets.issued_before (h : Baskets seed earlier b)
    (hcleared : ∀ c, earlier.getLast? = some c → c.isListing = false) :
    b.issued = if earlier.isEmpty then seed.issued else none := by
  cases hlast : earlier.getLast? with
  | none =>
    obtain rfl := List.getLast?_eq_none_iff.mp hlast
    cases h
    rfl
  | some c =>
    obtain ⟨before, hsets⟩ := h.last hlast
    rw [hsets.cleared_of_not_listing (hcleared c hlast)]
    have hne : earlier ≠ [] := by
      rintro rfl
      cases hlast
    simp [WorkBasket.cleared, hne]

theorem Baskets.tellsOf (h : Baskets seed cs b) : TellsOf seed cs b := by
  refine ⟨?_, ?_, ?_, ?_⟩
  · rintro rfl
    cases h
    rfl
  · intro c hlast hc
    obtain ⟨before, hsets⟩ := h.last hlast
    rw [hsets.cleared_of_not_listing hc]
    exact ⟨rfl, rfl, rfl⟩
  · intro c hlast hc
    obtain ⟨before, hsets⟩ := h.last hlast
    obtain ⟨session, now, hs, -, rfl⟩ := hsets.listed_of_listing hc
    exact ⟨session, hs, rfl, rfl, rfl⟩
  · rintro earlier first rest rfl hl hcleared
    obtain ⟨before, hearlier, hblock⟩ := h.append
    cases hblock with
    | cons hfirst hrest =>
      obtain ⟨session, now, -, hr, rfl⟩ := hfirst.listed_of_listing (hl first (.head rest))
      refine ⟨now, hr, hrest.issued_kept (fun c hmem => hl c (.tail _ hmem)) ?_⟩
      rw [← hearlier.issued_before hcleared]
      rfl

end Baskets

theorem commit?_of_not_committed
    (h : ∀ k event version, (d.handle s).1 ≠ .ok (.committed k event version)) :
    d.commit? id s = none := by
  unfold commit?
  split
  · rename_i hresult
    exact absurd hresult (h _ _ _)
  · rfl

theorem commit?_of_other (h : d.message.caseId ≠ id) : d.commit? id s = none := by
  unfold commit?
  split
  · exact if_neg h
  · rfl

theorem commit?_of_committed (hf : d.fetched = .ok detail) {k : Disposition}
    {event : WorkflowEvent} {version : Nat}
    (h : (d.handle s).1 = .ok (.committed k event version)) :
    d.commit? d.message.caseId s = some ⟨detail, d.readings s⟩ := by
  unfold commit?
  rw [hf, h]
  exact if_pos rfl

/-- A change is listed or clears the basket, and a listing has read the clock once. -/
theorem sets_of_change (hs : s.cases.UnderOwnIds) {r : Revision}
    (h : d.change? = some (detail, r)) (ha : s.fetch d.message.caseId = .ok a) :
    Commit.Sets ⟨detail, d.readings s⟩ a.data.workBasket (r.onBasket a.data.workBasket) := by
  cases callsFor_of_revision (change?_eq_some_iff.mp h).2 with
  | list found now hd hsession =>
    exact .listed found.session now (by rw [Commit.isListing, hd]; rfl) hsession
      (readings_of_change hs h ha)
  | cancelledInListing hd => exact .cleared (by rw [Commit.isListing, hd]; rfl)
  | ended hd => exact .cleared (by rcases hd with hd | hd <;> rw [Commit.isListing, hd] <;> rfl)

theorem baskets_handle (hs : s.cases.UnderOwnIds) (ha : s.get? id = some a) :
    ∃ b, (d.handle s).2.get? id = some b ∧
      Baskets a.data.workBasket (d.commit? id s).toList b.data.workBasket := by
  rcases handle_cases (d := d) hs with ⟨hstay, hne⟩ | ⟨detail, r, c, update, hd, hc, hu, ht⟩
  · refine ⟨a, ?_, ?_⟩
    · rw [hstay]
      exact ha
    · rw [commit?_of_not_committed hne]
      exact .nil _
  by_cases hid : id = d.message.caseId
  · subst hid
    obtain rfl : a = c := Option.some.inj (ha.symm.trans (MemoryStore.get?_of_fetch hc))
    refine ⟨a.commit update, ?_, ?_⟩
    · rw [ht]
      exact MemoryStore.get?_apply_self
    · rw [commit?_of_committed (change?_eq_some_iff.mp hd).1 (congrArg Prod.fst ht),
        Revision.commit_data hu a]
      exact .cons (sets_of_change hs hd hc) (.nil _)
  · refine ⟨a, ?_, ?_⟩
    · rw [ht]
      exact (MemoryStore.get?_apply_ne hid).trans ha
    · rw [commit?_of_other (Ne.symm hid)]
      exact .nil _

theorem Baskets.trans {b b' b'' : WorkBasket} {cs ds : List Commit} (h : Baskets b cs b')
    (k : Baskets b' ds b'') : Baskets b (cs ++ ds) b'' := by
  induction h with
  | nil _ => exact k
  | cons hc _ ih => exact .cons hc (ih k)

theorem baskets_run (hs : s.cases.UnderOwnIds) (ha : s.get? id = some a) (ds : List Delivery) :
    ∃ b, (run ds s).get? id = some b ∧
      Baskets a.data.workBasket (commits id ds s) b.data.workBasket := by
  induction ds generalizing s a with
  | nil => exact ⟨a, ha, .nil _⟩
  | cons d ds ih =>
    obtain ⟨b, hb, hfirst⟩ := baskets_handle (d := d) hs ha
    obtain ⟨c, hc, hrest⟩ := ih ((handle_move hs).underOwnIds hs) hb
    exact ⟨c, hc, hfirst.trans hrest⟩

/-- After any messages the basket of a case tells of the commits on it. The last one cleared it, or
it gave date and venue of its session; and then the stamp is the one that was seeded, if nothing but
listings came since, and else the time of the first listing after the last commit that cleared. -/
theorem work_basket_history (hs : s.cases.UnderOwnIds) (ha : s.get? id = some a)
    (ds : List Delivery) : ∃ b, (run ds s).get? id = some b ∧
      TellsOf a.data.workBasket (commits id ds s) b.data.workBasket := by
  obtain ⟨b, hb, hbaskets⟩ := baskets_run hs ha ds
  exact ⟨b, hb, hbaskets.tellsOf⟩

def failedDetail : HearingDetail := { Rehearsal.listedHearing with status := .exception }

def failure : Delivery :=
  .steady { strategy := .readModifyWrite } Rehearsal.listingMessage.caseId failedDetail
    ⟨"12", "Leeds", none⟩ (midnight 19990)

def relisting : List Delivery := [listingOn 19990, failure, listingOn 19991, listingOn 19992]

theorem work_basket_history_relisted :
    MemoryStore.oneCase.cases.UnderOwnIds ∧
    MemoryStore.oneCase.get? Rehearsal.listingMessage.caseId =
      some ⟨{ caseId := Rehearsal.listingMessage.caseId, state := .readyToList }, 1⟩ ∧
    commits Rehearsal.listingMessage.caseId relisting MemoryStore.oneCase =
      [⟨Rehearsal.listedHearing, [midnight 19990]⟩, ⟨failedDetail, []⟩,
        ⟨Rehearsal.listedHearing, [midnight 19991]⟩, ⟨Rehearsal.listedHearing, [midnight 19992]⟩] ∧
    ∃ b, (run relisting MemoryStore.oneCase).get? Rehearsal.listingMessage.caseId = some b ∧
      b.data.workBasket.venueCode = some Rehearsal.hearingRoom ∧
      b.data.workBasket.issued = some (midnight 19991).toLondon.issuedText := by
  have hcommits : commits Rehearsal.listingMessage.caseId relisting MemoryStore.oneCase =
      [⟨Rehearsal.listedHearing, [midnight 19990]⟩, ⟨failedDetail, []⟩] ++
        ⟨Rehearsal.listedHearing, [midnight 19991]⟩ ::
          [⟨Rehearsal.listedHearing, [midnight 19992]⟩] := by rfl
  obtain ⟨b, hb, htells⟩ := work_basket_history MemoryStore.oneCase_underOwnIds
    (rfl : MemoryStore.oneCase.get? Rehearsal.listingMessage.caseId = some _) relisting
  rw [hcommits] at htells
  have hlistings : ∀ c ∈ [(⟨Rehearsal.listedHearing, [midnight 19991]⟩ : Commit),
      ⟨Rehearsal.listedHearing, [midnight 19992]⟩], c.isListing = true := by
    intro c hc
    simp only [List.mem_cons, List.not_mem_nil, or_false] at hc
    rcases hc with rfl | rfl <;> rfl
  obtain ⟨session, hsession, -, hvenue, -⟩ := htells.listed _ rfl rfl
  obtain ⟨now, hnow, hissued⟩ := htells.issued _ _ _ rfl hlistings (by rintro c ⟨⟩; rfl)
  cases hsession
  cases hnow
  exact ⟨MemoryStore.oneCase_underOwnIds, rfl, hcommits, b, hb, hvenue, hissued⟩

end Delivery

end HearingSync
