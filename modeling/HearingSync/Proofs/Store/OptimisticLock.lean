import HearingSync.Proofs.Store.Writer
/-!
Clients of the store in memory, as many as there are, each calling what it likes in any order. The
snapshots that were handed out are kept, however old they are. Invariant: the case of each of them
is still filed, with that snapshot or one of a higher version. Main statement: a submission is
accepted exactly while its snapshot is the current one.
-/

namespace HearingSync

namespace MemoryStore

def transact (s : MemoryStore) (id : CaseId) (question : CaseSnapshot → Option CaseUpdate) :
    (Except StoreError (Option CaseSnapshot) × List CaseSnapshot) × MemoryStore :=
  (((caseStore (m := StateM MemoryStore)).transact id fun a => do
      modify (· ++ [a])
      return question a).run.run []).run s

theorem transact_of_fetch_error {s : MemoryStore} {id : CaseId} {e : StoreError}
    (h : s.fetch id = .error e) (question : CaseSnapshot → Option CaseUpdate) :
    s.transact id question = ((.error e, []), s) := by
  rw [transact, run_transact, h]
  rfl

theorem transact_of_fetch_ok {s : MemoryStore} {id : CaseId} {a : CaseSnapshot}
    (h : s.fetch id = .ok a) (question : CaseSnapshot → Option CaseUpdate) :
    s.transact id question =
      ((.ok ((question a).map a.commit), [a]), s.answered id a (question a)) := by
  rw [transact, run_transact, h]
  rfl

def KeepsCase (question : CaseSnapshot → Option CaseUpdate) : Prop :=
  ∀ a update, question a = some update → update.data.caseId = a.data.caseId

theorem transact_move {s : MemoryStore} {id : CaseId} {question : CaseSnapshot → Option CaseUpdate}
    (hs : s.cases.UnderOwnIds) (hq : KeepsCase question) :
    Move s (s.transact id question).2 := by
  cases h : s.fetch id with
  | error e => rw [transact_of_fetch_error h]; exact .stay
  | ok a =>
    rw [transact_of_fetch_ok h]
    cases hu : question a with
    | none => exact .stay
    | some update =>
      have ha := get?_of_fetch h
      exact .commit id a update ha ((hq a update hu).trans (hs id a ha))

inductive Operation where
  | insert (data : CaseData)
  | fetch (id : CaseId)
  | get (id : CaseId)
  | submit (base : CaseSnapshot) (update : CaseUpdate)
  | transact (id : CaseId) (question : CaseSnapshot → Option CaseUpdate)
  | touch (id : CaseId)
  | setUnavailable (unavailable : Bool)

namespace Operation

/-- Each case is inserted once, and an update is of the case it is for. -/
def Permitted : Operation → MemoryStore → Prop
  | .insert data, s => s.get? data.caseId = none
  | .submit base update, _ => update.data.caseId = base.data.caseId
  | .transact _ question, _ => KeepsCase question
  | _, _ => True

def next : Operation → MemoryStore → MemoryStore
  | .insert data, s => s.insert data
  | .fetch _, s => s
  | .get _, s => s
  | .submit base update, s => (s.submit base update).2
  | .transact id question, s => (s.transact id question).2
  | .touch id, s => s.touch id
  | .setUnavailable unavailable, s => s.setUnavailable unavailable

def yields : Operation → MemoryStore → List CaseSnapshot
  | .fetch id, s => (s.fetch id).toOption.toList
  | .get id, s => (s.get? id).toList
  | .submit base update, s => (s.submit base update).1.toOption.toList
  | .transact id question, s =>
    (s.transact id question).1.2 ++ (s.transact id question).1.1.toOption.join.toList
  | _, _ => []

end Operation

/-- The store, and every snapshot of it that some client got. -/
structure Clients where
  store : MemoryStore
  held : List CaseSnapshot

namespace Clients

def initial : Clients := ⟨{}, []⟩

def perform (c : Clients) (op : Operation) : Clients :=
  ⟨op.next c.store, c.held ++ op.yields c.store⟩

inductive Execution : Clients → Clients → Prop where
  | nil (c) : Execution c c
  | cons {c d} (op : Operation) : op.Permitted c.store → Execution (c.perform op) d →
      Execution c d

def Reachable (c : Clients) : Prop := Execution initial c

structure Invariant (c : Clients) : Prop where
  underOwnIds : c.store.cases.UnderOwnIds
  counted : c.store.writes = c.store.events.length
  filed : ∀ a ∈ c.held, ∃ b, c.store.get? a.data.caseId = some b ∧ a.LeadsTo b

end Clients

variable {s : MemoryStore} {op : Operation}

theorem Operation.next_move (hs : s.cases.UnderOwnIds) (hp : op.Permitted s) :
    Move s (op.next s) := by
  cases op with
  | insert data => exact .insert data hp
  | fetch id => exact .stay
  | get id => exact .stay
  | submit base update => exact submit_move hp
  | transact id question => exact transact_move hs hp
  | touch id => exact .touch id
  | setUnavailable unavailable => exact .setUnavailable unavailable

/-- What a client gets to see was current before the operation or is so after it. -/
theorem Operation.mem_yields (hs : s.cases.UnderOwnIds) (hp : op.Permitted s) {a : CaseSnapshot}
    (ha : a ∈ op.yields s) :
    s.get? a.data.caseId = some a ∨ (op.next s).get? a.data.caseId = some a := by
  have hold {id : CaseId} (hg : s.get? id = some a) : s.get? a.data.caseId = some a := by
    rw [hs id a hg, hg]
  have hnew (id : CaseId) (hg : (op.next s).get? id = some a) :
      (op.next s).get? a.data.caseId = some a := by
    rw [(next_move hs hp).underOwnIds hs id a hg, hg]
  cases op with
  | insert data => cases ha
  | touch id => cases ha
  | setUnavailable unavailable => cases ha
  | fetch id =>
    left
    cases h : s.fetch id with
    | error e => simp [yields, h, Except.toOption] at ha
    | ok b =>
      obtain rfl : a = b := by simpa [yields, h, Except.toOption] using ha
      exact hold (get?_of_fetch h)
  | get id =>
    left
    exact hold (Option.mem_toList.mp ha)
  | submit base update =>
    right
    cases h : s.fetch base.data.caseId with
    | error e => simp [yields, submit_of_fetch_error h, Except.toOption] at ha
    | ok b =>
      by_cases hv : b.version = base.version
      · obtain rfl : a = b.commit update := by
          simpa [yields, submit_of_fetch_ok h, hv, Except.toOption] using ha
        refine hnew base.data.caseId ?_
        simp [next, submit_of_fetch_ok h, hv]
      · simp [yields, submit_of_fetch_ok h, hv, Except.toOption] at ha
  | transact id question =>
    cases h : s.fetch id with
    | error e => simp [yields, transact_of_fetch_error h, Except.toOption] at ha
    | ok b =>
      simp only [yields, transact_of_fetch_ok h, Except.toOption, Option.join_some,
        List.mem_append, List.mem_singleton, Option.mem_toList] at ha
      rcases ha with rfl | ha
      · left
        exact hold (get?_of_fetch h)
      · right
        cases hu : question b with
        | none => simp [hu] at ha
        | some update =>
          obtain rfl : a = b.commit update := by simpa [hu, eq_comm] using ha
          refine hnew id ?_
          simp [next, transact_of_fetch_ok h, hu, answered]

namespace Clients

variable {c d : Clients}

theorem initial_invariant : initial.Invariant where
  underOwnIds := Filing.underOwnIds_nil
  counted := rfl
  filed := fun _ h => nomatch h

theorem perform_preserves_invariant (h : c.Invariant) (hp : op.Permitted c.store) :
    (c.perform op).Invariant := by
  have hm := Operation.next_move h.underOwnIds hp
  refine ⟨hm.underOwnIds h.underOwnIds, hm.writes_eq_length h.counted, ?_⟩
  intro a ha
  rcases List.mem_append.mp ha with ha | ha
  · obtain ⟨b, hb, hab⟩ := h.filed a ha
    obtain ⟨b', hb', hbb'⟩ := hm.leadsTo a.data.caseId b hb
    exact ⟨b', hb', hab.trans hbb'⟩
  · rcases Operation.mem_yields h.underOwnIds hp ha with hg | hg
    · exact hm.leadsTo a.data.caseId a hg
    · exact ⟨a, hg, a.leadsTo_refl⟩

theorem execution_preserves_invariant (h : Execution c d) (hc : c.Invariant) : d.Invariant := by
  induction h with
  | nil => exact hc
  | cons op hp _ ih => exact ih (perform_preserves_invariant hc hp)

theorem Reachable.invariant (h : c.Reachable) : c.Invariant :=
  execution_preserves_invariant h initial_invariant

theorem Execution.leadsTo (h : Execution c d) (hc : c.Invariant) :
    c.store.cases.LeadsTo d.store.cases := by
  induction h with
  | nil => exact Filing.leadsTo_refl _
  | cons op hp _ ih =>
    exact (Operation.next_move hc.underOwnIds hp).leadsTo.trans
      (ih (perform_preserves_invariant hc hp))

end Clients

/-- The store is available and the snapshot is the current one of its case, document and all. -/
def IsCurrent (s : MemoryStore) (base : CaseSnapshot) : Prop :=
  s.unavailable = false ∧ s.get? base.data.caseId = some base

def CommitsAtMostOnce (s t : MemoryStore) : Prop :=
  (t.events = s.events ∧ t.writes = s.writes) ∨
  ∃ id a b event, s.get? id = some a ∧ t.get? id = some b ∧ b.version = a.version + 1 ∧
    t.events = s.events ++ [(id, event)] ∧ ∀ l ≠ id, t.get? l = s.get? l

theorem Move.commitsAtMostOnce {t : MemoryStore} (h : Move s t) : s.CommitsAtMostOnce t := by
  cases h with
  | stay => exact Or.inl ⟨rfl, rfl⟩
  | insert data _ => exact Or.inl ⟨rfl, rfl⟩
  | touch id => exact Or.inl ⟨touch_events, touch_writes⟩
  | setUnavailable unavailable => exact Or.inl ⟨rfl, rfl⟩
  | commit id a update ha _ =>
    right
    refine ⟨id, a, a.commit update, update.event, ha, get?_apply_self, rfl, rfl, ?_⟩
    intro l hl
    exact get?_apply_ne hl

theorem submit_of_isCurrent {base : CaseSnapshot} (h : s.IsCurrent base) (update : CaseUpdate) :
    s.submit base update =
      (.ok (base.commit update), s.apply base.data.caseId base update) := by
  rw [submit_of_fetch_ok (fetch_eq_ok_iff.mpr h), if_pos rfl]

/-- The case being filed with the snapshot or a later one, a snapshot of the current version is the
current one. -/
theorem submit_of_not_isCurrent {base b : CaseSnapshot} (hb : s.get? base.data.caseId = some b)
    (hl : base.LeadsTo b) (h : ¬s.IsCurrent base) (update : CaseUpdate) :
    s.submit base update =
      (.error (if s.unavailable then
          .unavailable base.data.caseId "in-memory store marked unavailable"
        else .conflict base.data.caseId base.version), s) := by
  by_cases hu : s.unavailable = true
  · rw [if_pos hu]
    exact submit_of_fetch_error (fetch_unavailable hu)
  · have ha : s.unavailable = false := Bool.eq_false_iff.mpr hu
    have hv : b.version ≠ base.version := by
      intro hv
      rw [hl.eq_of_version_eq hv] at hb
      exact h ⟨ha, hb⟩
    rw [if_neg hu, submit_of_fetch_ok (fetch_eq_ok_iff.mpr ⟨ha, hb⟩), if_neg hv]

namespace Clients

/-- Whatever the clients did before, a snapshot that one of them got can be submitted exactly while
it is current, and a submission that is refused changes nothing. From there on no version goes down,
and no call commits more than one update, which is then logged and counted. -/
theorem optimistic_lock_sound {c : Clients} (hc : c.Reachable) :
    (∀ base ∈ c.held, ∀ update : CaseUpdate,
      ((∃ a, (c.store.submit base update).1 = .ok a) ↔ c.store.IsCurrent base) ∧
      (c.store.IsCurrent base → c.store.submit base update =
        (.ok (base.commit update), c.store.apply base.data.caseId base update)) ∧
      (¬c.store.IsCurrent base → c.store.submit base update =
        (.error (if c.store.unavailable then
            .unavailable base.data.caseId "in-memory store marked unavailable"
          else .conflict base.data.caseId base.version), c.store))) ∧
    (∀ op : Operation, op.Permitted c.store →
      c.store.CommitsAtMostOnce (c.perform op).store) ∧
    (∀ d, Execution c d → ∀ id a, c.store.get? id = some a →
      ∃ b, d.store.get? id = some b ∧ a.version ≤ b.version) ∧
    c.store.writes = c.store.events.length := by
  have hi := hc.invariant
  refine ⟨?_, ?_, ?_, hi.counted⟩
  · intro base hb update
    obtain ⟨b, hg, hl⟩ := hi.filed base hb
    have hrefused (h : ¬c.store.IsCurrent base) := submit_of_not_isCurrent hg hl h update
    refine ⟨⟨?_, ?_⟩, fun h => submit_of_isCurrent h update, hrefused⟩
    · rintro ⟨a, ha⟩
      refine Classical.byContradiction fun h => ?_
      rw [hrefused h] at ha
      cases ha
    · intro h
      exact ⟨base.commit update, by rw [submit_of_isCurrent h]⟩
  · intro op hp
    exact (Operation.next_move hi.underOwnIds hp).commitsAtMostOnce
  · intro d hd id a ha
    obtain ⟨b, hb, hab⟩ := hd.leadsTo hi id a ha
    exact ⟨b, hb, hab.version_le⟩

def touched (data : CaseData) : Clients :=
  (((initial.perform (.insert data)).perform (.get data.caseId)).perform
    (.touch data.caseId)).perform (.get data.caseId)

theorem touched_reachable (data : CaseData) : (touched data).Reachable :=
  .cons (.insert data) rfl (.cons (.get data.caseId) trivial
    (.cons (.touch data.caseId) trivial (.cons (.get data.caseId) trivial (.nil _))))

def listedCase : CaseData := { caseId := ⟨"21", by decide, by decide⟩, state := .hearing }

def readyCase : CaseUpdate where
  data := { listedCase with state := .readyToList }
  event := ⟨.updateCaseOnly, "", ""⟩

theorem optimistic_lock_sound_touched :
    (touched listedCase).Reachable ∧
    (touched listedCase).held = [⟨listedCase, 1⟩, ⟨listedCase, 2⟩] ∧
    (∃ a, ((touched listedCase).store.submit ⟨listedCase, 2⟩ readyCase).1 = .ok a) ∧
    (touched listedCase).store.submit ⟨listedCase, 1⟩ readyCase =
      (.error (.conflict listedCase.caseId 1), (touched listedCase).store) ∧
    (touched listedCase).store.CommitsAtMostOnce
      ((touched listedCase).perform (.submit ⟨listedCase, 2⟩ readyCase)).store := by
  have hr := touched_reachable listedCase
  have hheld : (touched listedCase).held = [⟨listedCase, 1⟩, ⟨listedCase, 2⟩] := by decide
  obtain ⟨hsubmit, hop, -, -⟩ := optimistic_lock_sound hr
  refine ⟨hr, hheld, ?_, ?_, ?_⟩
  · exact (hsubmit ⟨listedCase, 2⟩ (by simp [hheld]) readyCase).1.mpr ⟨rfl, by decide⟩
  · refine (hsubmit ⟨listedCase, 1⟩ (by simp [hheld]) readyCase).2.2 ?_
    intro h
    exact absurd h.2 (by decide)
  · exact hop (.submit ⟨listedCase, 2⟩ readyCase) rfl

end Clients

end MemoryStore

end HearingSync
