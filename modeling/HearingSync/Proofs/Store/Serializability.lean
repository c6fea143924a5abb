import HearingSync.Proofs.Store.History
/-!
Writes to the store in memory that go on at the same time, their steps in any order, with touches
and switching off in between. Invariant: carried out one after another on the documents as they were
filed, the history gives the store. Main statement: so it does after any steps, and it holds the
committed writes, each once, and no others.
-/

namespace HearingSync

variable {ι : Type}

inductive Phase where
  | waiting
  | fetched (a : CaseSnapshot)
  | ended (result : Except ReconcileError WriteOutcome)

structure System (ι : Type) where
  store : MemoryStore
  phase : ι → Phase
  history : List (HistoryEntry ι)

namespace System

def initial (seeds : List CaseData) : System ι where
  store := seeds.foldl MemoryStore.insert {}
  phase := fun _ => .waiting
  history := []

def reported (i : ι) : Except ReconcileError WriteOutcome → List (HistoryEntry ι)
  | .ok (.committed version event) => [.commit i version event]
  | _ => []

structure Invariant (writes : ι → CaseWrite) (seeds : List CaseData) (σ : System ι) : Prop where
  underOwnIds : σ.store.cases.UnderOwnIds
  replayed : ∀ d ∈ seeds, ∃ a, replay writes d.caseId ⟨d, 1⟩ σ.history = some a ∧
    σ.store.get? d.caseId = some a
  unfiled : ∀ id, id ∉ seeds.map CaseData.caseId → σ.store.get? id = none
  held : ∀ i a, σ.phase i = .fetched a → a.data.caseId = (writes i).caseId ∧
    ∃ b, σ.store.get? (writes i).caseId = some b ∧ a.LeadsTo b
  recorded : ∀ i version event, .commit i version event ∈ σ.history ↔
    σ.phase i = .ended (.ok (.committed version event))
  once : (σ.history.filterMap HistoryEntry.write?).Nodup
  filed : ∀ i version event, .commit i version event ∈ σ.history →
    (writes i).caseId ∈ seeds.map CaseData.caseId
  logged : σ.store.events = σ.history.filterMap (HistoryEntry.logged writes)

variable {writes : ι → CaseWrite} {seeds : List CaseData} {σ τ : System ι} {i : ι}

theorem mem_reported {j : ι} {r : Except ReconcileError WriteOutcome} {version : Nat}
    {event : CaseEvent} :
    .commit j version event ∈ reported i r ↔ j = i ∧ r = .ok (.committed version event) := by
  unfold reported
  split
  · simp [eq_comm]
  · rename_i h
    simp only [List.not_mem_nil, false_iff]
    rintro ⟨rfl, hr⟩
    exact h _ _ hr

theorem mem_committed {history : List (HistoryEntry ι)} :
    i ∈ history.filterMap HistoryEntry.write? ↔
      ∃ version event, .commit i version event ∈ history := by
  rw [List.mem_filterMap]
  constructor
  · rintro ⟨entry, hentry, hi⟩
    cases entry with
    | touch id => cases hi
    | commit j version event =>
      cases hi
      exact ⟨version, event, hentry⟩
  · rintro ⟨version, event, h⟩
    exact ⟨_, h, rfl⟩

theorem initial_invariant (hseeds : (seeds.map CaseData.caseId).Nodup) :
    Invariant writes seeds (initial seeds) where
  underOwnIds := MemoryStore.foldl_insert_underOwnIds Filing.underOwnIds_nil seeds
  replayed := fun d hd => ⟨⟨d, 1⟩, rfl, MemoryStore.get?_foldl_insert {} hseeds hd⟩
  unfiled := fun _ hid => MemoryStore.get?_foldl_insert_other {} hid
  held := by simp [initial]
  recorded := by simp [initial]
  filed := by simp [initial]
  once := List.nodup_nil
  logged := MemoryStore.foldl_insert_events {} seeds

theorem touch_preserves_invariant (h : Invariant writes seeds σ) (id : CaseId) :
    Invariant writes seeds
      { σ with store := σ.store.touch id, history := σ.history ++ [.touch id] } := by
  have hmove : σ.store.Move (σ.store.touch id) := .touch id
  refine ⟨hmove.underOwnIds h.underOwnIds, ?_, ?_, ?_, ?_, ?_, ?_, ?_⟩
  · intro d hd
    obtain ⟨b, hreplay, hb⟩ := h.replayed d hd
    by_cases hid : id = d.caseId
    · refine ⟨{ b with version := b.version + 1 }, replay_snoc hreplay hid rfl, ?_⟩
      simp only [hid, MemoryStore.get?_touch_self, hb, Option.map_some]
    · refine ⟨b, replay_snoc_other hreplay hid, ?_⟩
      simp only [MemoryStore.get?_touch_ne (Ne.symm hid), hb]
  · intro l hl
    have hn := h.unfiled l hl
    by_cases hid : l = id
    · subst hid
      simp only [MemoryStore.get?_touch_self, hn, Option.map_none]
    · simp only [MemoryStore.get?_touch_ne hid, hn]
  · intro i a hi
    obtain ⟨ha, b, hb, hab⟩ := h.held i a hi
    obtain ⟨c, hc, hbc⟩ := hmove.leadsTo _ b hb
    exact ⟨ha, c, hc, hab.trans hbc⟩
  · intro i version event
    simpa using h.recorded i version event
  · simpa [List.filterMap_cons, HistoryEntry.write?] using h.once
  · intro i version event
    simpa using h.filed i version event
  · simpa [List.filterMap_cons, HistoryEntry.logged] using h.logged

variable [DecidableEq ι]

def withPhase (σ : System ι) (i : ι) (p : Phase) : System ι :=
  { σ with phase := fun j => if j = i then p else σ.phase j }

def fetched (σ : System ι) (i : ι) : Except ReconcileError CaseSnapshot → System ι
  | .error e => σ.withPhase i (.ended (.error e))
  | .ok a => σ.withPhase i (.fetched a)

def finish (σ : System ι) (i : ι)
    (ending : Except ReconcileError WriteOutcome × MemoryStore) : System ι where
  store := ending.2
  phase := (σ.withPhase i (.ended ending.1)).phase
  history := σ.history ++ reported i ending.1

inductive Step (writes : ι → CaseWrite) : System ι → System ι → Prop where
  | fetch {σ : System ι} {i : ι} : (writes i).strategy = .readModifyWrite → σ.phase i = .waiting →
      Step writes σ (σ.fetched i ((writes i).fetch σ.store))
  | submit {σ : System ι} {i : ι} {a : CaseSnapshot} : σ.phase i = .fetched a →
      Step writes σ (σ.finish i ((writes i).submit a σ.store))
  | transact {σ : System ι} {i : ι} : (writes i).strategy = .callback → σ.phase i = .waiting →
      Step writes σ (σ.finish i ((writes i).transact σ.store))
  | touch {σ : System ι} (id : CaseId) :
      Step writes σ { σ with store := σ.store.touch id, history := σ.history ++ [.touch id] }
  | setUnavailable {σ : System ι} (unavailable : Bool) :
      Step writes σ { σ with store := σ.store.setUnavailable unavailable }

inductive Execution (writes : ι → CaseWrite) : System ι → System ι → Prop where
  | nil {σ : System ι} : Execution writes σ σ
  | cons {σ τ υ : System ι} : Step writes σ τ → Execution writes τ υ → Execution writes σ υ

theorem finish_history_of_nothing {r : Except ReconcileError WriteOutcome} {t : MemoryStore}
    (hr : ∀ version event, r ≠ .ok (.committed version event)) :
    (σ.finish i (r, t)).history = σ.history := by
  simp only [finish]
  unfold reported
  split
  · exact absurd rfl (hr _ _)
  · exact List.append_nil _

theorem finish_recorded (h : Invariant writes seeds σ) (hi : ∀ r, σ.phase i ≠ .ended r)
    (ending : Except ReconcileError WriteOutcome × MemoryStore) (j : ι) (version : Nat)
    (event : CaseEvent) :
    .commit j version event ∈ (σ.finish i ending).history ↔
      (σ.finish i ending).phase j = .ended (.ok (.committed version event)) := by
  simp only [finish, withPhase, List.mem_append, mem_reported, h.recorded]
  by_cases hj : j = i
  · subst hj
    simp [hi]
  · simp [hj]

theorem finish_once (h : Invariant writes seeds σ) (hi : ∀ r, σ.phase i ≠ .ended r)
    (ending : Except ReconcileError WriteOutcome × MemoryStore) :
    ((σ.finish i ending).history.filterMap HistoryEntry.write?).Nodup := by
  have hnew : i ∉ σ.history.filterMap HistoryEntry.write? := by
    intro hmem
    obtain ⟨version, event, hc⟩ := mem_committed.mp hmem
    exact hi _ ((h.recorded i version event).mp hc)
  simp only [finish, List.filterMap_append]
  unfold reported
  split
  · refine List.nodup_append.mpr ⟨h.once, by simp [HistoryEntry.write?], ?_⟩
    intro j hj k hk hjk
    obtain rfl : k = i := by simpa [HistoryEntry.write?] using hk
    exact hnew (hjk ▸ hj)
  · simpa using h.once

/-- A write that has not returned yet may do so, in any of the ways that it can end. -/
theorem finish_preserves_invariant (h : Invariant writes seeds σ)
    (hi : ∀ r, σ.phase i ≠ .ended r)
    {ending : Except ReconcileError WriteOutcome × MemoryStore}
    (he : (writes i).Ends σ.store ending.1 ending.2) :
    Invariant writes seeds (σ.finish i ending) := by
  have hmove := he.move h.underOwnIds
  have hheld (j a) (hj : (σ.finish i ending).phase j = .fetched a) :
      a.data.caseId = (writes j).caseId ∧
        ∃ b, ending.2.get? (writes j).caseId = some b ∧ a.LeadsTo b := by
    have hne : j ≠ i := by
      rintro rfl
      simp [finish, withPhase] at hj
    obtain ⟨hid, b, hb, hab⟩ := h.held j a (by simpa [finish, withPhase, hne] using hj)
    obtain ⟨c, hc, hbc⟩ := hmove.leadsTo _ b hb
    exact ⟨hid, c, hc, hab.trans hbc⟩
  obtain ⟨r, t⟩ := ending
  refine ⟨hmove.underOwnIds h.underOwnIds, ?_, ?_, hheld, finish_recorded h hi _,
    finish_once h hi _, ?_, ?_⟩
  · intro d hd
    obtain ⟨b, hreplay, hb⟩ := h.replayed d hd
    cases he with
    | nothing _ hr =>
      rw [finish_history_of_nothing hr]
      exact ⟨b, hreplay, hb⟩
    | commit a update ha hu =>
      by_cases hid : (writes i).caseId = d.caseId
      · rw [hid, hb] at ha
        obtain rfl := Option.some.inj ha
        refine ⟨b.commit update, ?_, ?_⟩
        · exact replay_snoc hreplay hid (HistoryEntry.redo_commit hu)
        · show (σ.store.apply (writes i).caseId b update).get? d.caseId = some (b.commit update)
          rw [hid]
          exact MemoryStore.get?_apply_self
      · exact ⟨b, replay_snoc_other hreplay hid,
          (MemoryStore.get?_apply_ne (Ne.symm hid)).trans hb⟩
  · intro id hid
    have hn := h.unfiled id hid
    cases he with
    | nothing _ _ => exact hn
    | commit a update ha hu =>
      have hne : id ≠ (writes i).caseId := by
        rintro rfl
        rw [hn] at ha
        cases ha
      exact (MemoryStore.get?_apply_ne hne).trans hn
  · intro j version event hj
    rcases List.mem_append.mp hj with hj | hj
    · exact h.filed j version event hj
    obtain ⟨rfl, hr⟩ := mem_reported.mp hj
    cases he with
    | nothing _ hr' => exact absurd hr (hr' version event)
    | commit a update ha hu =>
      refine Classical.byContradiction fun hn => ?_
      rw [h.unfiled _ hn] at ha
      cases ha
  · cases he with
    | nothing _ hr =>
      rw [finish_history_of_nothing hr]
      exact h.logged
    | commit a update ha hu =>
      simp [finish, reported, h.logged, HistoryEntry.logged]

theorem withPhase_preserves_invariant (h : Invariant writes seeds σ) {p : Phase}
    (hi : ∀ r, σ.phase i ≠ .ended r)
    (hp : ∀ version event, p ≠ .ended (.ok (.committed version event)))
    (hheld : ∀ a, p = .fetched a → a.data.caseId = (writes i).caseId ∧
      ∃ b, σ.store.get? (writes i).caseId = some b ∧ a.LeadsTo b) :
    Invariant writes seeds (σ.withPhase i p) := by
  refine { h with held := ?_, recorded := ?_ }
  · intro j a hj
    by_cases hji : j = i
    · subst hji
      exact hheld a (by simpa [withPhase] using hj)
    · exact h.held j a (by simpa [withPhase, hji] using hj)
  · intro j version event
    rw [show (σ.withPhase i p).history = σ.history from rfl, h.recorded]
    by_cases hji : j = i
    · subst hji
      simp [withPhase, hi, hp]
    · simp [withPhase, hji]

theorem fetched_preserves_invariant (h : Invariant writes seeds σ) (hi : σ.phase i = .waiting) :
    Invariant writes seeds (σ.fetched i ((writes i).fetch σ.store)) := by
  have hnot : ∀ r, σ.phase i ≠ .ended r := by simp [hi]
  rw [CaseWrite.fetch_eq]
  cases hf : σ.store.fetch (writes i).caseId with
  | error e => exact withPhase_preserves_invariant h hnot (by simp) (by simp)
  | ok a =>
    have ha := MemoryStore.get?_of_fetch hf
    refine withPhase_preserves_invariant h hnot (by simp) ?_
    rintro _ ⟨rfl⟩
    exact ⟨h.underOwnIds _ a ha, a, ha, a.leadsTo_refl⟩

theorem step_preserves_invariant (hs : Step writes σ τ) (h : Invariant writes seeds σ) :
    Invariant writes seeds τ := by
  cases hs with
  | fetch _ hi => exact fetched_preserves_invariant h hi
  | submit hi =>
    obtain ⟨ha, b, hb, hab⟩ := h.held _ _ hi
    exact finish_preserves_invariant h (by simp [hi]) (CaseWrite.submit_ends ha hb hab)
  | transact _ hi =>
    exact finish_preserves_invariant h (by simp [hi]) CaseWrite.transact_ends
  | touch id => exact touch_preserves_invariant h id
  | setUnavailable unavailable => exact { h with }

theorem execution_preserves_invariant (hs : Execution writes σ τ) (h : Invariant writes seeds σ) :
    Invariant writes seeds τ := by
  induction hs with
  | nil => exact h
  | cons hstep _ ih => exact ih (step_preserves_invariant hstep h)

def Commits (σ τ : System ι) (i : ι) (version : Nat) (event : CaseEvent) : Prop :=
  τ.phase i = .ended (.ok (.committed version event)) ∧ σ.phase i ≠ τ.phase i

/-- What one step may do to the documents: a write commits, by its decision on the current snapshot,
or all documents stay as they are. -/
inductive Effect (writes : ι → CaseWrite) (σ : System ι) : System ι → Prop where
  | commit (i : ι) (a : CaseSnapshot) (update : CaseUpdate) : (∀ r, σ.phase i ≠ .ended r) →
      σ.store.get? (writes i).caseId = some a → (writes i).decide a = .ok (some update) →
      Effect writes σ (σ.finish i (.ok (.committed (a.version + 1) update.event),
        σ.store.apply (writes i).caseId a update))
  | quiet (τ : System ι) : (∀ id, (τ.store.get? id).map CaseSnapshot.data =
      (σ.store.get? id).map CaseSnapshot.data) →
      (∀ i version event, ¬Commits σ τ i version event) → Effect writes σ τ

theorem commits_finish_iff (hi : ∀ r, σ.phase i ≠ .ended r) {j : ι} {version : Nat}
    {event : CaseEvent} {r : Except ReconcileError WriteOutcome} {t : MemoryStore} :
    Commits σ (σ.finish i (r, t)) j version event ↔ j = i ∧ r = .ok (.committed version event) := by
  simp only [Commits, finish, withPhase]
  by_cases hj : j = i
  · subst hj
    simp [hi]
  · simp [hj]

theorem not_commits_withPhase {p : Phase}
    (hp : ∀ version event, p ≠ .ended (.ok (.committed version event))) (j : ι) (version : Nat)
    (event : CaseEvent) : ¬Commits σ (σ.withPhase i p) j version event := by
  rintro ⟨hτ, hσ⟩
  simp only [withPhase] at hτ hσ
  by_cases hj : j = i
  · rw [if_pos hj] at hτ
    exact hp version event hτ
  · exact hσ (if_neg hj).symm

theorem finish_effect (hi : ∀ r, σ.phase i ≠ .ended r)
    {ending : Except ReconcileError WriteOutcome × MemoryStore}
    (he : (writes i).Ends σ.store ending.1 ending.2) :
    Effect writes σ (σ.finish i ending) := by
  obtain ⟨r, t⟩ := ending
  cases he with
  | commit a update ha hu => exact .commit i a update hi ha hu
  | nothing _ hr =>
    refine .quiet _ (fun _ => rfl) fun j version event h => ?_
    exact hr version event ((commits_finish_iff hi).mp h).2

theorem fetched_effect (answer : Except ReconcileError CaseSnapshot) :
    Effect writes σ (σ.fetched i answer) := by
  cases answer with
  | error e => exact .quiet _ (fun _ => rfl) (not_commits_withPhase (by simp))
  | ok a => exact .quiet _ (fun _ => rfl) (not_commits_withPhase (by simp))

theorem step_effect (hs : Step writes σ τ) (h : Invariant writes seeds σ) :
    Effect writes σ τ := by
  cases hs with
  | fetch _ _ => exact fetched_effect _
  | submit hi =>
    obtain ⟨ha, b, hb, hab⟩ := h.held _ _ hi
    exact finish_effect (by simp [hi]) (CaseWrite.submit_ends ha hb hab)
  | transact _ hi => exact finish_effect (by simp [hi]) CaseWrite.transact_ends
  | touch id =>
    refine .quiet _ (fun l => ?_) fun _ _ _ hc => hc.2 rfl
    by_cases hl : l = id
    · subst hl
      rw [MemoryStore.get?_touch_self, Option.map_map]
      rfl
    · rw [MemoryStore.get?_touch_ne hl]
  | setUnavailable unavailable => exact .quiet _ (fun _ => rfl) fun _ _ _ hc => hc.2 rfl

/-- In one step a write commits its decision on the case, or the document of the case stays. -/
theorem step_case (hs : Step writes σ τ) (h : Invariant writes seeds σ) {id : CaseId}
    {a : CaseSnapshot} (ha : σ.store.get? id = some a) :
    ∃ b, τ.store.get? id = some b ∧ (b.data = a.data ∨ ∃ i update, (writes i).caseId = id ∧
      (writes i).decide a = .ok (some update) ∧ b = a.commit update ∧
      Commits σ τ i b.version update.event) := by
  cases step_effect hs h with
  | quiet _ hstay _ =>
    have hb := hstay id
    rw [ha, Option.map_some] at hb
    obtain ⟨b, hb, hdata⟩ := Option.map_eq_some_iff.mp hb
    exact ⟨b, hb, .inl hdata⟩
  | commit i c update hi hc hu =>
    by_cases hid : id = (writes i).caseId
    · subst hid
      obtain rfl : a = c := Option.some.inj (ha.symm.trans hc)
      exact ⟨a.commit update, MemoryStore.get?_apply_self,
        .inr ⟨i, update, rfl, hu, rfl, (commits_finish_iff hi).mpr ⟨rfl, rfl⟩⟩⟩
    · exact ⟨a, (MemoryStore.get?_apply_ne hid).trans ha, .inl rfl⟩

/-- A write that reports a commit has replaced the snapshot that it decided on. -/
theorem commits_decision (hs : Step writes σ τ) (h : Invariant writes seeds σ) {version : Nat}
    {event : CaseEvent} (hc : Commits σ τ i version event) :
    ∃ a update, σ.store.get? (writes i).caseId = some a ∧
      (writes i).decide a = .ok (some update) ∧
      τ.store.get? (writes i).caseId = some (a.commit update) ∧
      (a.commit update).version = version := by
  cases step_effect hs h with
  | quiet _ _ hnone => exact absurd hc (hnone i version event)
  | commit j a update hj ha hu =>
    obtain ⟨rfl, hr⟩ := (commits_finish_iff hj).mp hc
    cases hr
    exact ⟨a, update, ha, hu, MemoryStore.get?_apply_self, rfl⟩

/-- Whatever the order of the steps, each case holds the document that the committed writes come to
when they are carried out one after another, in the order of their commits, on the document that was
filed; each of them reports what it commits there. The log has their events, in that order, and a
write that returned anything else has no part in it. -/
theorem writes_serializable {writes : ι → CaseWrite} {seeds : List CaseData}
    (hseeds : (seeds.map CaseData.caseId).Nodup) {σ : System ι}
    (hσ : Execution writes (initial seeds) σ) :
    (∀ d ∈ seeds, ∃ a, replay writes d.caseId ⟨d, 1⟩ σ.history = some a ∧
      σ.store.get? d.caseId = some a ∧
      a.version = 1 + commitsOf writes d.caseId σ.history + touchesOf writes d.caseId σ.history) ∧
    (∀ id, id ∉ seeds.map CaseData.caseId → σ.store.get? id = none) ∧
    σ.store.events = σ.history.filterMap (HistoryEntry.logged writes) ∧
    (∀ i version event, .commit i version event ∈ σ.history ↔
      σ.phase i = .ended (.ok (.committed version event))) ∧
    (σ.history.filterMap HistoryEntry.write?).Nodup ∧
    (∀ before i version event after, σ.history = before ++ .commit i version event :: after →
      ∃ d ∈ seeds, d.caseId = (writes i).caseId ∧ ∃ a update,
        replay writes d.caseId ⟨d, 1⟩ before = some a ∧
        (writes i).decide a = .ok (some update) ∧
        replay writes d.caseId ⟨d, 1⟩ (before ++ [.commit i version event]) =
          some (a.commit update) ∧
        version = (a.commit update).version ∧ event = update.event) ∧
    ∀ i r, σ.phase i = .ended r → (∀ version event, r ≠ .ok (.committed version event)) →
      i ∉ σ.history.filterMap HistoryEntry.write? := by
  have h : Invariant writes seeds σ :=
    execution_preserves_invariant hσ (initial_invariant hseeds)
  refine ⟨?_, h.unfiled, h.logged, h.recorded, h.once, ?_, ?_⟩
  · intro d hd
    obtain ⟨a, hreplay, ha⟩ := h.replayed d hd
    exact ⟨a, hreplay, ha, replay_version hreplay⟩
  · intro before i version event after hsplit
    have hmem : .commit i version event ∈ σ.history := by simp [hsplit]
    obtain ⟨d, hd, hid⟩ := List.mem_map.mp (h.filed i version event hmem)
    obtain ⟨b, hreplay, -⟩ := h.replayed d hd
    rw [hsplit] at hreplay
    obtain ⟨a, update, ha, hu, hv, he, hcommit⟩ := replay_before_commit hid.symm hreplay
    exact ⟨d, hd, hid, a, update, ha, hu, hcommit, hv, he⟩
  · intro i r hi hr hmem
    obtain ⟨version, event, hc⟩ := mem_committed.mp hmem
    rw [h.recorded, hi] at hc
    exact hr version event (Phase.ended.inj hc)

def silentServices : Collaborators Id where
  hearing id := throw (.answered id.text 404 "")
  reference := { venue? := fun _ => pure none, judge? := fun _ => pure none, now := instant }
  store :=
    { name := ""
      fetch := fun id => throw (.notFound id)
      submit := fun base _ => throw (.notFound base.data.caseId)
      transact := fun id _ => throw (.notFound id) }
  note _ := pure ⟨⟩
where
  instant : Instant := ⟨{ date := ⟨20100⟩, second := 43200, nano := 500 }⟩

def failedHearing : HearingDetail where
  hearingId := ⟨"37", by decide, by decide⟩
  status := .exception
  listing := none
  reasons := []
  sessions := []

def failureMessage : HearingMessage where
  serviceCode := "BBA3"
  caseId := ⟨"31", by decide, by decide⟩
  hearingId := failedHearing.hearingId
  reportedStatus := .exception

def waitingCase : CaseData := { caseId := failureMessage.caseId, state := .readyToList }

/-- One message handled twice at the same time, once by transaction. -/
def handledTwice (byTransaction : Bool) : CaseWrite :=
  CaseWrite.ofMessage silentServices
    { strategy := if byTransaction then .callback else .readModifyWrite }
    failureMessage failedHearing

def overtaken : System Bool :=
  let read := (initial [waitingCase]).fetched false
    ((handledTwice false).fetch (initial (ι := Bool) [waitingCase]).store)
  let committed := read.finish true ((handledTwice true).transact read.store)
  committed.finish false ((handledTwice false).submit ⟨waitingCase, 1⟩ committed.store)

theorem overtaken_execution : Execution handledTwice (initial [waitingCase]) overtaken :=
  .cons (.fetch (i := false) rfl rfl) (.cons (.transact (i := true) rfl rfl)
    (.cons (.submit (i := false) rfl) .nil))

theorem writes_serializable_overtaken :
    ([waitingCase].map CaseData.caseId).Nodup ∧
    Execution handledTwice (initial [waitingCase]) overtaken ∧
    overtaken.phase true = .ended (.ok (.committed 2 (failedHearing.caseEvent .handlingError))) ∧
    overtaken.phase false = .ended (.error (.store (.conflict waitingCase.caseId 1))) ∧
    (∃ a, replay handledTwice waitingCase.caseId ⟨waitingCase, 1⟩ overtaken.history = some a ∧
      overtaken.store.get? waitingCase.caseId = some a ∧ a.version = 2) ∧
    false ∉ overtaken.history.filterMap HistoryEntry.write? := by
  have hseeds : ([waitingCase].map CaseData.caseId).Nodup := by decide
  have hfalse : overtaken.phase false =
      .ended (.error (.store (.conflict waitingCase.caseId 1))) := by rfl
  obtain ⟨hdocs, -, -, -, -, -, hout⟩ := writes_serializable hseeds overtaken_execution
  refine ⟨hseeds, overtaken_execution, by rfl, hfalse, ?_, ?_⟩
  · obtain ⟨a, hreplay, ha, hv⟩ := hdocs waitingCase (List.mem_singleton_self _)
    exact ⟨a, hreplay, ha, hv⟩
  · exact hout false _ hfalse nofun

end System

end HearingSync
