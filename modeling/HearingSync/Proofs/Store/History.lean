import HearingSync.Proofs.Store.CaseWrite
/-!
Histories of writes: what returned as committed, and the changes by others, in their order. Main
statement: where a history can be carried out again from the start, each commit in it is what its
write decided on the snapshot that the entries before it lead to.
-/

namespace HearingSync

variable {ι : Type}

/-- A write that reported a commit, or a change by somebody else. -/
inductive HistoryEntry (ι : Type) where
  | commit (i : ι) (version : Nat) (event : CaseEvent)
  | touch (id : CaseId)

namespace HistoryEntry

def write? : HistoryEntry ι → Option ι
  | .commit i _ _ => some i
  | .touch _ => none

def caseId (writes : ι → CaseWrite) : HistoryEntry ι → CaseId
  | .commit i _ _ => (writes i).caseId
  | .touch id => id

def logged (writes : ι → CaseWrite) : HistoryEntry ι → Option (CaseId × CaseEvent)
  | .commit i _ event => some ((writes i).caseId, event)
  | .touch _ => none

/-- The entry carried out on a snapshot of its case; `none` where the write would not commit there
what it reported. -/
def redo (writes : ι → CaseWrite) (a : CaseSnapshot) : HistoryEntry ι → Option CaseSnapshot
  | .touch _ => some { a with version := a.version + 1 }
  | .commit i version event =>
    match (writes i).decide a with
    | .ok (some update) =>
      if version = a.version + 1 ∧ event = update.event then some (a.commit update) else none
    | _ => none

variable {writes : ι → CaseWrite} {a b : CaseSnapshot} {entry : HistoryEntry ι}

theorem redo_commit {i : ι} {update : CaseUpdate} (h : (writes i).decide a = .ok (some update)) :
    redo writes a (.commit i (a.version + 1) update.event) = some (a.commit update) := by
  simp [redo, h]

theorem redo_commit_eq_some_iff {i : ι} {version : Nat} {event : CaseEvent} :
    redo writes a (.commit i version event) = some b ↔
      ∃ update, (writes i).decide a = .ok (some update) ∧ version = a.version + 1 ∧
        event = update.event ∧ a.commit update = b := by
  cases h : (writes i).decide a with
  | error e => simp [redo, h]
  | ok answer => cases answer <;> simp [redo, h, and_assoc]

theorem redo_version (h : redo writes a entry = some b) : b.version = a.version + 1 := by
  cases entry with
  | touch id => cases h; rfl
  | commit i version event =>
    obtain ⟨update, -, -, -, rfl⟩ := redo_commit_eq_some_iff.mp h
    rfl

end HistoryEntry

def entriesOf (writes : ι → CaseWrite) (id : CaseId) (history : List (HistoryEntry ι)) :
    List (HistoryEntry ι) :=
  history.filter fun entry => entry.caseId writes = id

def replay (writes : ι → CaseWrite) (id : CaseId) (a : CaseSnapshot)
    (history : List (HistoryEntry ι)) : Option CaseSnapshot :=
  (entriesOf writes id history).foldlM (HistoryEntry.redo writes) a

def commitsOf (writes : ι → CaseWrite) (id : CaseId) (history : List (HistoryEntry ι)) : Nat :=
  (entriesOf writes id history).countP fun entry => entry.write?.isSome

def touchesOf (writes : ι → CaseWrite) (id : CaseId) (history : List (HistoryEntry ι)) : Nat :=
  (entriesOf writes id history).countP fun entry => ¬entry.write?.isSome

section Replay

variable {writes : ι → CaseWrite} {id : CaseId} {a b : CaseSnapshot}
  {history : List (HistoryEntry ι)} {entry : HistoryEntry ι}

theorem replay_append (before after : List (HistoryEntry ι)) :
    replay writes id a (before ++ after) =
      (replay writes id a before).bind fun b => replay writes id b after := by
  simp only [replay, entriesOf, List.filter_append, List.foldlM_append]
  rfl

theorem replay_singleton (h : entry.caseId writes = id) :
    replay writes id a [entry] = entry.redo writes a := by
  simp [replay, entriesOf, h]

theorem replay_singleton_other (h : entry.caseId writes ≠ id) :
    replay writes id a [entry] = some a := by
  simp [replay, entriesOf, h]

theorem replay_snoc {c : CaseSnapshot} (h : replay writes id a history = some b)
    (he : entry.caseId writes = id) (hc : entry.redo writes b = some c) :
    replay writes id a (history ++ [entry]) = some c := by
  rw [replay_append, h, Option.bind_some, replay_singleton he, hc]

theorem replay_snoc_other (h : replay writes id a history = some b)
    (he : entry.caseId writes ≠ id) : replay writes id a (history ++ [entry]) = some b := by
  rw [replay_append, h, Option.bind_some, replay_singleton_other he]

theorem foldlM_redo_version (h : history.foldlM (HistoryEntry.redo writes) a = some b) :
    b.version = a.version + history.length := by
  induction history generalizing a with
  | nil => cases h; rfl
  | cons entry rest ih =>
    rw [List.foldlM_cons] at h
    obtain ⟨c, hc, hrest⟩ := Option.bind_eq_some_iff.mp h
    have hv := HistoryEntry.redo_version hc
    have hr := ih hrest
    rw [List.length_cons]
    omega

theorem replay_version (h : replay writes id a history = some b) :
    b.version = a.version + commitsOf writes id history + touchesOf writes id history := by
  have hv := foldlM_redo_version h
  have hl := List.length_eq_countP_add_countP (fun entry : HistoryEntry ι => entry.write?.isSome)
    (l := entriesOf writes id history)
  unfold commitsOf touchesOf
  omega

/-- A commit of a history that can be replayed is what its write decided on the snapshot that the
entries before it lead to. -/
theorem replay_before_commit {before after : List (HistoryEntry ι)} {i : ι} {version : Nat}
    {event : CaseEvent} (hi : (writes i).caseId = id)
    (h : replay writes id a (before ++ .commit i version event :: after) = some b) :
    ∃ c update, replay writes id a before = some c ∧ (writes i).decide c = .ok (some update) ∧
      version = (c.commit update).version ∧ event = update.event ∧
      replay writes id a (before ++ [.commit i version event]) = some (c.commit update) := by
  have hone (c : CaseSnapshot) : replay writes id c [.commit i version event] =
      HistoryEntry.redo writes c (.commit i version event) := replay_singleton hi
  have hsplit : before ++ .commit i version event :: after =
      before ++ ([.commit i version event] ++ after) := rfl
  rw [hsplit, replay_append] at h
  obtain ⟨c, hc, hrest⟩ := Option.bind_eq_some_iff.mp h
  rw [replay_append, hone] at hrest
  obtain ⟨d, hd, -⟩ := Option.bind_eq_some_iff.mp hrest
  obtain ⟨update, hu, hv, he, rfl⟩ := HistoryEntry.redo_commit_eq_some_iff.mp hd
  refine ⟨c, update, hc, hu, hv, he, ?_⟩
  rw [replay_append, hc, Option.bind_some, hone, hd]

end Replay

end HearingSync
