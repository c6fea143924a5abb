import HearingSync.Proofs.Delivery.Handling
/-!
Messages that are delivered more than once. Invariant: the case holds the document that the first
handling committed, and the same change finds nothing left to do there, whatever the time. Main
statement: handling a committed message again commits again, and only version and log grow.
-/

namespace HearingSync

namespace Reconcile

variable {services : Services} {settings : Settings} {message : HearingMessage}
  {detail : HearingDetail}

/-- The clock is read once, after all lookups. -/
theorem revision_of_listedUpdate (hd : detail.disposition = .listedUpdate) (calls : List Call) :
    ((revision services.collaborators settings message detail).run.run calls).1 =
      ((lookUp services.collaborators settings message detail).run.run calls).1.map fun found =>
        some (.list found (services.now
          ((lookUp services.collaborators settings message detail).run.run calls).2)) := by
  unfold revision
  rw [hd]
  simp only [ExceptT.run_bind, StateT.run_bind]
  generalize (lookUp services.collaborators settings message detail).run.run calls = looked
  obtain ⟨answer, calls'⟩ := looked
  cases answer <;> rfl

end Reconcile

namespace Delivery

def Again (d e : Delivery) : Prop :=
  ∃ clock : List Call → Instant, e = { d with services := { d.services with now := clock } }

def results : List Delivery → MemoryStore → List (Except ReconcileError Outcome)
  | [], _ => []
  | d :: ds, s => (d.handle s).1 :: results ds (d.handle s).2

variable {d e : Delivery} {detail : HearingDetail} {r : Revision} {s : MemoryStore}

theorem Again.refl (d : Delivery) : d.Again d := ⟨d.services.now, rfl⟩

theorem Again.symm (h : d.Again e) : e.Again d := by
  obtain ⟨clock, rfl⟩ := h
  exact ⟨d.services.now, rfl⟩

theorem Again.message (h : d.Again e) : e.message = d.message := by
  obtain ⟨clock, rfl⟩ := h
  rfl

theorem Again.revision (h : d.Again e) (detail : HearingDetail) :
    ∃ now, e.revision detail = (d.revision detail).map (Option.map (Revision.timed now)) := by
  obtain ⟨clock, rfl⟩ := h
  refine ⟨clock ((Reconcile.lookUp d.services.collaborators d.settings d.message detail).run.run
    [.hearing d.message.hearingId (.ok detail)]).2, ?_⟩
  cases hd : detail.disposition with
  | listedUpdate =>
    have hagain : Reconcile.lookUp { d.services with now := clock }.collaborators d.settings
        d.message detail = Reconcile.lookUp d.services.collaborators d.settings d.message detail :=
      rfl
    unfold Delivery.revision
    simp only [Reconcile.revision_of_listedUpdate hd, hagain]
    generalize (Reconcile.lookUp d.services.collaborators d.settings d.message detail).run.run
      [.hearing d.message.hearingId (.ok detail)] = looked
    cases looked.1 <;> rfl
  | _ =>
    unfold Delivery.revision Reconcile.revision
    rw [hd]
    rfl

theorem Again.change?_of_some (h : d.Again e) (hd : d.change? = some (detail, r)) :
    ∃ now, e.change? = some (detail, r.timed now) := by
  obtain ⟨hfetched, hr⟩ := change?_eq_some_iff.mp hd
  obtain ⟨now, hnow⟩ := h.revision detail
  rw [hr] at hnow
  obtain ⟨clock, rfl⟩ := h
  exact ⟨now, change?_eq_some_iff.mpr ⟨hfetched, hnow⟩⟩

theorem Again.change?_of_none (h : d.Again e) (hd : d.change? = none) : e.change? = none := by
  cases he : e.change? with
  | none => rfl
  | some change =>
    obtain ⟨detail, r⟩ := change
    obtain ⟨now, hnow⟩ := h.symm.change?_of_some he
    cases hd.symm.trans hnow

structure Absorbed (d : Delivery) (detail : HearingDetail) (r : Revision) (logged : CaseEvent)
    (current : CaseSnapshot) (s : MemoryStore) : Prop where
  underOwnIds : s.cases.UnderOwnIds
  fetched : s.fetch d.message.caseId = .ok current
  change : d.change? = some (detail, r)
  unchanged : ∀ now, ∃ update,
    (r.timed now).update? detail d.settings.policy current.data = some update ∧
      update.event = logged ∧ ∀ a : CaseSnapshot, (a.commit update).data = current.data

variable {logged : CaseEvent} {current : CaseSnapshot}

theorem absorbed_of_committed (hs : s.cases.UnderOwnIds) {k : Disposition} {event : WorkflowEvent}
    {version : Nat} (h : (d.handle s).1 = .ok (.committed k event version)) :
    ∃ detail r logged current, d.Absorbed detail r logged current (d.handle s).2 ∧
      k = detail.disposition ∧ event = logged.type ∧ version = current.version := by
  rcases handle_cases (d := d) hs with ⟨-, hne⟩ | ⟨detail, r, a, update, hd, ha, hu, ht⟩
  · exact absurd h (hne k event version)
  have hmove := handle_move (d := d) hs
  rw [ht] at h hmove ⊢
  cases h
  refine ⟨detail, r, update.event, a.commit update, ⟨hmove.underOwnIds hs, ?_, hd, ?_⟩, rfl, rfl,
    rfl⟩
  · have hfetch := MemoryStore.fetch_eq_ok_iff.mp ha
    exact MemoryStore.fetch_eq_ok_iff.mpr ⟨hfetch.1, MemoryStore.get?_apply_self⟩
  · exact Revision.update?_again hu a

/-- One more handling is one more commit of the same document. -/
theorem Absorbed.handle (h : d.Absorbed detail r logged current s) (he : d.Again e) :
    ∃ t, e.handle s = (.ok (.committed detail.disposition logged.type (current.version + 1)), t) ∧
      d.Absorbed detail r logged { current with version := current.version + 1 } t ∧
      t.events = s.events ++ [(d.message.caseId, logged)] ∧ t.writes = s.writes + 1 ∧
      ∀ id, id ≠ d.message.caseId → t.get? id = s.get? id := by
  have hfetch := MemoryStore.fetch_eq_ok_iff.mp h.fetched
  obtain ⟨now, hchange⟩ := he.change?_of_some h.change
  obtain ⟨expected, hexpected, hlogged, hdata⟩ := h.unchanged now
  have hmove := handle_move (d := e) h.underOwnIds
  obtain ⟨clock, rfl⟩ := he
  obtain ⟨update, hu, ht⟩ := handle_of_change h.underOwnIds hchange h.fetched
  obtain rfl : expected = update := Option.some.inj (hexpected.symm.trans hu)
  have hcommit : current.commit expected = { current with version := current.version + 1 } := by
    rw [← hdata current]
    rfl
  rw [ht] at hmove
  rw [← hlogged]
  refine ⟨s.apply d.message.caseId current expected, ht, ?_, rfl, rfl, ?_⟩
  · rw [hlogged, ← hcommit]
    refine ⟨hmove.underOwnIds h.underOwnIds, ?_, h.change, ?_⟩
    · exact MemoryStore.fetch_eq_ok_iff.mpr ⟨hfetch.1, MemoryStore.get?_apply_self⟩
    · rw [hdata current]
      exact h.unchanged
  · intro id hid
    exact MemoryStore.get?_apply_ne hid

/-- What a number of commits that leave the document of a case as it is make of a store. -/
structure Repeated (id : CaseId) (logged : CaseEvent) (times : Nat) (a : CaseSnapshot)
    (s t : MemoryStore) : Prop where
  document : t.get? id = some { a with version := a.version + times }
  events : t.events = s.events ++ List.replicate times (id, logged)
  writes : t.writes = s.writes + times
  others : ∀ l, l ≠ id → t.get? l = s.get? l

theorem Absorbed.run {again : List Delivery} (h : d.Absorbed detail r logged current s)
    (hagain : ∀ e ∈ again, d.Again e) :
    results again s = (List.range again.length).map (fun n =>
        .ok (.committed detail.disposition logged.type (current.version + (n + 1)))) ∧
      Repeated d.message.caseId logged again.length current s (run again s) := by
  induction again generalizing current s with
  | nil =>
    have hfetch := MemoryStore.fetch_eq_ok_iff.mp h.fetched
    exact ⟨rfl, hfetch.2, (List.append_nil s.events).symm, rfl, fun _ _ => rfl⟩
  | cons e rest ih =>
    -- the rest starts from the same document, one version on
    obtain ⟨t, ht, hnext, hevents, hwrites, hothers⟩ := h.handle (hagain e (.head rest))
    obtain ⟨hresults, hrest⟩ := ih hnext fun e he => hagain e (.tail _ he)
    have hrun : run (e :: rest) s = run rest t := by rw [run_cons, ht]
    rw [hrun]
    refine ⟨?_, ?_, ?_, ?_, ?_⟩
    · rw [results, ht, hresults, List.length_cons, List.range_succ_eq_map, List.map_cons,
        List.map_map]
      refine congrArg (_ :: ·) (List.map_congr_left fun n _ => ?_)
      rw [Function.comp_apply, Nat.succ_eq_add_one, Nat.add_right_comm, Nat.add_assoc]
    · rw [hrest.document, List.length_cons, Nat.add_right_comm, Nat.add_assoc]
    · rw [hrest.events, hevents, List.append_assoc]
      rfl
    · rw [hrest.writes, hwrites, List.length_cons]
      omega
    · intro l hl
      exact (hrest.others l hl).trans (hothers l hl)

/-- A message that was committed can come any number of times more, at whatever times and with the
same answers: each time it is committed again, and the whole document stays as it was after the
first time. -/
theorem redelivery_harmless (hs : s.cases.UnderOwnIds) {again : List Delivery}
    (hagain : ∀ e ∈ again, d.Again e) {k : Disposition} {event : WorkflowEvent} {version : Nat}
    (hcommit : (d.handle s).1 = .ok (.committed k event version)) :
    ∃ data logged, logged.type = event ∧
      (d.handle s).2.get? d.message.caseId = some ⟨data, version⟩ ∧
      results again (d.handle s).2 =
        (List.range again.length).map (fun n => .ok (.committed k event (version + (n + 1)))) ∧
      Repeated d.message.caseId logged again.length ⟨data, version⟩ (d.handle s).2
        (run again (d.handle s).2) := by
  obtain ⟨detail, r, logged, current, h, rfl, rfl, rfl⟩ := absorbed_of_committed hs hcommit
  have hfetch := MemoryStore.fetch_eq_ok_iff.mp h.fetched
  obtain ⟨hresults, hrepeated⟩ := h.run hagain
  exact ⟨current.data, logged, rfl, hfetch.2, hresults, hrepeated⟩

def midnight (day : Int) : Instant := ⟨{ Rehearsal.oneVenue.now.utc with date := ⟨day⟩ }⟩

def listingOn (day : Int) : Delivery :=
  .steady {} Rehearsal.listingMessage.caseId Rehearsal.listedHearing ⟨"12", "Leeds", none⟩
    (midnight day)

theorem redelivery_harmless_listing :
    MemoryStore.oneCase.cases.UnderOwnIds ∧
    (∀ e ∈ [listingOn 19991, listingOn 19992], (listingOn 19990).Again e) ∧
    ((listingOn 19990).handle MemoryStore.oneCase).1 =
      .ok (.committed .listedUpdate .hearingBooked 2) ∧
    results [listingOn 19991, listingOn 19992] ((listingOn 19990).handle MemoryStore.oneCase).2 =
      [.ok (.committed .listedUpdate .hearingBooked 3),
        .ok (.committed .listedUpdate .hearingBooked 4)] ∧
    ∃ data logged, Repeated Rehearsal.listingMessage.caseId logged 2 ⟨data, 2⟩
      ((listingOn 19990).handle MemoryStore.oneCase).2
      (run [listingOn 19991, listingOn 19992]
        ((listingOn 19990).handle MemoryStore.oneCase).2) := by
  have hagain : ∀ e ∈ [listingOn 19991, listingOn 19992], (listingOn 19990).Again e := by
    intro e he
    simp only [List.mem_cons, List.not_mem_nil, or_false] at he
    rcases he with rfl | rfl
    · exact ⟨fun _ => midnight 19991, rfl⟩
    · exact ⟨fun _ => midnight 19992, rfl⟩
  have hcommit : ((listingOn 19990).handle MemoryStore.oneCase).1 =
      .ok (.committed .listedUpdate .hearingBooked 2) := by rfl
  obtain ⟨data, logged, -, -, hresults, hrepeated⟩ :=
    redelivery_harmless MemoryStore.oneCase_underOwnIds hagain hcommit
  exact ⟨MemoryStore.oneCase_underOwnIds, hagain, hcommit, hresults, data, logged, hrepeated⟩

end Delivery

end HearingSync
