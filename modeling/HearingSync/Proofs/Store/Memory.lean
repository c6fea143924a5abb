import HearingSync.Proofs.Snapshot
import HearingSync.Store.Memory
/-!
What the operations of the store in memory do. Each of them leaves the store as it is, commits one
update on top of the current snapshot of one case, moves one version on, or switches the store on
or off. Main statements: such a move keeps the cases under their own ids, and every case goes on
from its snapshot to the same or a later one.
-/

namespace HearingSync.MemoryStore

variable {s t u : MemoryStore} {id l : CaseId} {a b base : CaseSnapshot} {update : CaseUpdate}

theorem fetch_eq_ok_iff : s.fetch id = .ok a ↔ s.unavailable = false ∧ s.get? id = some a := by
  unfold fetch
  cases s.unavailable with
  | true => simp
  | false => cases s.get? id <;> simp

theorem fetch_unavailable (h : s.unavailable = true) :
    s.fetch id = .error (.unavailable id "in-memory store marked unavailable") := by
  simp [fetch, h]

theorem get?_of_fetch (h : s.fetch id = .ok a) : s.get? id = some a := (fetch_eq_ok_iff.mp h).2

@[simp] theorem get?_apply_self : (s.apply id a update).get? id = some (a.commit update) :=
  Filing.get?_put_self id (a.commit update) s.cases

theorem get?_apply_ne (h : l ≠ id) : (s.apply id a update).get? l = s.get? l :=
  Filing.get?_put_ne h (a.commit update) s.cases

@[simp] theorem apply_events :
    (s.apply id a update).events = s.events ++ [(id, update.event)] := rfl

@[simp] theorem apply_writes : (s.apply id a update).writes = s.writes + 1 := rfl

theorem touch_of_some (h : s.get? id = some a) :
    s.touch id = { s with cases := s.cases.put id { a with version := a.version + 1 } } := by
  simp [touch, h]

theorem touch_of_none (h : s.get? id = none) : s.touch id = s := by
  simp [touch, h]

theorem get?_touch_self : (s.touch id).get? id =
    (s.get? id).map fun a => { a with version := a.version + 1 } := by
  cases h : s.get? id with
  | none => rw [touch_of_none h, h]; rfl
  | some a => rw [touch_of_some h]; exact Filing.get?_put_self id _ s.cases

theorem get?_touch_ne (h : l ≠ id) : (s.touch id).get? l = s.get? l := by
  cases hs : s.get? id with
  | none => rw [touch_of_none hs]
  | some a => rw [touch_of_some hs]; exact Filing.get?_put_ne h _ s.cases

@[simp] theorem touch_events : (s.touch id).events = s.events := by
  unfold touch
  split <;> rfl

@[simp] theorem touch_writes : (s.touch id).writes = s.writes := by
  unfold touch
  split <;> rfl

theorem get?_insert_self (d : CaseData) : (s.insert d).get? d.caseId = some ⟨d, 1⟩ :=
  Filing.get?_put_self d.caseId _ s.cases

theorem get?_insert_ne {d : CaseData} (h : l ≠ d.caseId) : (s.insert d).get? l = s.get? l :=
  Filing.get?_put_ne h _ s.cases

theorem foldl_insert_underOwnIds {s : MemoryStore} (hs : s.cases.UnderOwnIds)
    (seeds : List CaseData) : (seeds.foldl insert s).cases.UnderOwnIds := by
  induction seeds generalizing s with
  | nil => exact hs
  | cons d rest ih => exact ih (hs.put rfl)

theorem foldl_insert_events (s : MemoryStore) (seeds : List CaseData) :
    (seeds.foldl insert s).events = s.events := by
  induction seeds generalizing s with
  | nil => rfl
  | cons d rest ih => exact ih (s.insert d)

theorem get?_foldl_insert_other {id : CaseId} (s : MemoryStore) {seeds : List CaseData}
    (hid : id ∉ seeds.map CaseData.caseId) :
    (seeds.foldl insert s).get? id = s.get? id := by
  induction seeds generalizing s with
  | nil => rfl
  | cons d rest ih =>
    rw [List.map_cons, List.mem_cons, not_or] at hid
    exact (ih (s.insert d) hid.2).trans (get?_insert_ne hid.1)

theorem get?_foldl_insert (s : MemoryStore) {seeds : List CaseData}
    (hseeds : (seeds.map CaseData.caseId).Nodup) {d : CaseData} (hd : d ∈ seeds) :
    (seeds.foldl insert s).get? d.caseId = some ⟨d, 1⟩ := by
  induction seeds generalizing s with
  | nil => cases hd
  | cons e rest ih =>
    rw [List.map_cons, List.nodup_cons] at hseeds
    rcases List.mem_cons.mp hd with rfl | hd
    · exact (get?_foldl_insert_other (s.insert d) hseeds.1).trans (get?_insert_self d)
    · exact ih (s.insert e) hseeds.2 hd

/-- A submission is accepted where its snapshot has the current version, and then the update is
committed on top of the current snapshot. -/
theorem submit_of_fetch_ok (h : s.fetch base.data.caseId = .ok a) :
    s.submit base update =
      if a.version = base.version then
        (.ok (a.commit update), s.apply base.data.caseId a update)
      else (.error (.conflict base.data.caseId base.version), s) := by
  simp [submit, h]

theorem submit_of_fetch_error {e : StoreError} (h : s.fetch base.data.caseId = .error e) :
    s.submit base update = (.error e, s) := by
  simp [submit, h]

inductive Move (s : MemoryStore) : MemoryStore → Prop where
  | stay : Move s s
  | insert (d : CaseData) : s.get? d.caseId = none → Move s (s.insert d)
  | commit (id : CaseId) (a : CaseSnapshot) (update : CaseUpdate) : s.get? id = some a →
      update.data.caseId = id → Move s (s.apply id a update)
  | touch (id : CaseId) : Move s (s.touch id)
  | setUnavailable (b : Bool) : Move s (s.setUnavailable b)

theorem Move.underOwnIds (h : Move s t) (hs : s.cases.UnderOwnIds) : t.cases.UnderOwnIds := by
  cases h with
  | stay => exact hs
  | insert d _ => exact hs.put rfl
  | commit id a update _ hu => exact hs.put (by rw [CaseSnapshot.commit_caseId, hu])
  | touch id =>
    cases ha : s.get? id with
    | none => rw [touch_of_none ha]; exact hs
    | some a => rw [touch_of_some ha]; exact hs.put (hs id a ha)
  | setUnavailable b => exact hs

theorem Move.leadsTo (h : Move s t) : s.cases.LeadsTo t.cases := by
  cases h with
  | stay => exact Filing.leadsTo_refl s.cases
  | insert d hn => exact Filing.leadsTo_put_new hn _
  | commit id a update ha _ =>
    exact Filing.leadsTo_put ha (CaseSnapshot.leadsTo_of_version_succ rfl)
  | touch id =>
    cases ha : s.get? id with
    | none => rw [touch_of_none ha]; exact Filing.leadsTo_refl s.cases
    | some a =>
      rw [touch_of_some ha]
      exact Filing.leadsTo_put ha (CaseSnapshot.leadsTo_of_version_succ rfl)
  | setUnavailable b => exact Filing.leadsTo_refl s.cases

theorem Move.writes_eq_length (h : Move s t) (hs : s.writes = s.events.length) :
    t.writes = t.events.length := by
  cases h with
  | stay => exact hs
  | insert d _ => exact hs
  | commit id a update _ _ => simp [hs]
  | touch id => simp [hs]
  | setUnavailable b => exact hs

theorem submit_move (hu : update.data.caseId = base.data.caseId) :
    Move s (s.submit base update).2 := by
  cases h : s.fetch base.data.caseId with
  | error e => rw [submit_of_fetch_error h]; exact .stay
  | ok a =>
    rw [submit_of_fetch_ok h]
    by_cases hv : a.version = base.version
    · rw [if_pos hv]
      exact .commit _ _ _ (get?_of_fetch h) hu
    · rw [if_neg hv]
      exact .stay

end HearingSync.MemoryStore
