import HearingSync.Proofs.Store.OptimisticLock
/-!
Under which id a document is found, whatever the updates carry. An update replaces the document as a
whole, the case id in it too, and what replaces it is filed where the document was. Main statement:
what is found under an id names the case that the document last filed there names, and a submission
goes to the case that its snapshot names and to no other.
-/

namespace HearingSync.MemoryStore

structure Filed where
  under : CaseId
  names : CaseId
  deriving DecidableEq

def named? (s : MemoryStore) (id : CaseId) : Option CaseId := (s.get? id).map (·.data.caseId)

def Operation.filed? : Operation → MemoryStore → Option Filed
  | .insert data, _ => some ⟨data.caseId, data.caseId⟩
  | .submit base update, s =>
    (s.submit base update).1.toOption.map fun _ => ⟨base.data.caseId, update.data.caseId⟩
  | .transact id question, s =>
    ((s.fetch id).toOption.bind question).map fun update => ⟨id, update.data.caseId⟩
  | _, _ => none

def after (s : MemoryStore) (ops : List Operation) : MemoryStore :=
  ops.foldl (fun s op => op.next s) s

def filings : MemoryStore → List Operation → List Filed
  | _, [] => []
  | s, op :: ops => (op.filed? s).toList ++ filings (op.next s) ops

def lastNamed? (fs : List Filed) (id : CaseId) : Option CaseId :=
  (fs.reverse.find? fun f => f.under = id).map Filed.names

variable {s t : MemoryStore} {id l : CaseId} {a base : CaseSnapshot} {update : CaseUpdate}
  {op : Operation}

theorem named?_apply : (s.apply id a update).named? l =
    if id = l then some update.data.caseId else s.named? l := by
  by_cases h : id = l
  · subst h
    simp [named?]
  · simp [named?, get?_apply_ne (Ne.symm h), h]

theorem named?_insert (d : CaseData) :
    (s.insert d).named? l = if d.caseId = l then some d.caseId else s.named? l := by
  by_cases h : d.caseId = l
  · subst h
    simp [named?, get?_insert_self]
  · simp [named?, get?_insert_ne (Ne.symm h), h]

/-- Another version is another snapshot of the same document. -/
theorem named?_touch : (s.touch id).named? l = s.named? l := by
  by_cases h : l = id
  · subst h
    simp [named?, get?_touch_self, Function.comp_def]
  · simp [named?, get?_touch_ne h]

inductive Submitted (s : MemoryStore) (base : CaseSnapshot) (update : CaseUpdate) :
    Except StoreError CaseSnapshot × MemoryStore → Prop where
  | refused (e : StoreError) : Submitted s base update (.error e, s)
  | accepted (a : CaseSnapshot) : s.get? base.data.caseId = some a →
      Submitted s base update (.ok (a.commit update), s.apply base.data.caseId a update)

theorem submitted_submit (s : MemoryStore) (base : CaseSnapshot) (update : CaseUpdate) :
    s.Submitted base update (s.submit base update) := by
  cases h : s.fetch base.data.caseId with
  | error e =>
    rw [submit_of_fetch_error h]
    exact .refused e
  | ok a =>
    rw [submit_of_fetch_ok h]
    by_cases hv : a.version = base.version
    · rw [if_pos hv]
      exact .accepted a (get?_of_fetch h)
    · rw [if_neg hv]
      exact .refused _

@[simp] theorem lastNamed?_nil (id : CaseId) : lastNamed? [] id = none := rfl

@[simp] theorem lastNamed?_singleton (f : Filed) (id : CaseId) :
    lastNamed? [f] id = if f.under = id then some f.names else none := by
  by_cases h : f.under = id <;> simp [lastNamed?, h]

theorem lastNamed?_append (fs gs : List Filed) (id : CaseId) :
    lastNamed? (fs ++ gs) id = (lastNamed? gs id).or (lastNamed? fs id) := by
  simp [lastNamed?, List.find?_append, Option.map_or]

/-- Where all documents under an id name it, so does the last. -/
theorem lastNamed?_eq_of_forall {fs : List Filed} {c : CaseId}
    (h : ∀ f ∈ fs, f.under = id → f.names = id) (hc : lastNamed? fs id = some c) : c = id := by
  obtain ⟨f, hf, rfl⟩ := Option.map_eq_some_iff.mp hc
  have hmem : f ∈ fs := List.mem_reverse.mp (List.mem_of_find?_eq_some hf)
  apply h f hmem
  simpa using List.find?_some hf

/-- The document that a submission files changes what is named under its id, and nowhere else. -/
theorem named?_submit (s : MemoryStore) (base : CaseSnapshot) (update : CaseUpdate) (l : CaseId) :
    (s.submit base update).2.named? l =
      (lastNamed? ((Operation.submit base update).filed? s).toList l).or (s.named? l) := by
  have hfiled : (Operation.submit base update).filed? s =
      (s.submit base update).1.toOption.map fun _ => ⟨base.data.caseId, update.data.caseId⟩ := rfl
  rw [hfiled]
  generalize hr : s.submit base update = r
  have h : s.Submitted base update r := hr ▸ submitted_submit s base update
  cases h with
  | refused e => rfl
  | accepted a _ => by_cases h : base.data.caseId = l <;> simp [named?_apply, Except.toOption, h]

theorem named?_transact (s : MemoryStore) (id l : CaseId)
    (question : CaseSnapshot → Option CaseUpdate) :
    (s.transact id question).2.named? l =
      (lastNamed? ((Operation.transact id question).filed? s).toList l).or (s.named? l) := by
  have hfiled : (Operation.transact id question).filed? s =
      ((s.fetch id).toOption.bind question).map fun update => ⟨id, update.data.caseId⟩ := rfl
  rw [hfiled]
  cases hf : s.fetch id with
  | error e =>
    rw [transact_of_fetch_error hf]
    rfl
  | ok a =>
    rw [transact_of_fetch_ok hf]
    cases hu : question a with
    | none => simp [answered, Except.toOption, hu]
    | some update =>
      by_cases h : id = l <;> simp [answered, named?_apply, Except.toOption, hu, h]

/-- One operation changes what is named under the id that it files a document under, and nowhere
else. -/
theorem Operation.named?_next (op : Operation) (s : MemoryStore) (l : CaseId) :
    (op.next s).named? l = (lastNamed? (op.filed? s).toList l).or (s.named? l) := by
  cases op with
  | insert data =>
    by_cases h : data.caseId = l <;> simp [next, filed?, named?_insert, h]
  | fetch id => rfl
  | get id => rfl
  | submit base update => exact named?_submit s base update l
  | transact id question => exact named?_transact s id l question
  | touch id => simp [next, filed?, named?_touch]
  | setUnavailable unavailable => rfl

theorem named?_after (s : MemoryStore) (ops : List Operation) (id : CaseId) :
    (s.after ops).named? id = (lastNamed? (filings s ops) id).or (s.named? id) := by
  induction ops generalizing s with
  | nil => rfl
  | cons op ops ih =>
    calc (s.after (op :: ops)).named? id
        = (lastNamed? (filings (op.next s) ops) id).or ((op.next s).named? id) := ih (op.next s)
      _ = (lastNamed? (filings s (op :: ops)) id).or (s.named? id) := by
        rw [op.named?_next, filings, lastNamed?_append, Option.or_assoc]

/-- An answer with the store afterwards: nothing is changed, or the one case `id` is. -/
def CommitsOnlyTo (s : MemoryStore) (id : CaseId) (event : CaseEvent)
    (r : Except StoreError CaseSnapshot × MemoryStore) : Prop :=
  (∃ e, r = (.error e, s)) ∨
  ∃ b, r.1 = .ok b ∧ r.2.get? id = some b ∧ r.2.events = s.events ++ [(id, event)] ∧
    ∀ l ≠ id, r.2.get? l = s.get? l

theorem Submitted.commitsOnlyTo {r : Except StoreError CaseSnapshot × MemoryStore}
    (h : s.Submitted base update r) : s.CommitsOnlyTo base.data.caseId update.event r := by
  cases h with
  | refused e => exact .inl ⟨e, rfl⟩
  | accepted a _ =>
    refine .inr ⟨a.commit update, rfl, get?_apply_self, rfl, ?_⟩
    intro l hl
    exact get?_apply_ne hl

/-- Whatever clients write, the document found under an id names the case that the one last filed
there names, so it names the id itself as long as no other document was filed there. A submission of
what was found, at any later time, goes to the case that it names and to no other. -/
theorem cases_found_as_filed (ops : List Operation) (id : CaseId) (a : CaseSnapshot)
    (ha : (after {} ops).fetch id = .ok a ∨ (after {} ops).get? id = some a) :
    lastNamed? (filings {} ops) id = some a.data.caseId ∧
    ((∀ f ∈ filings {} ops, f.under = id → f.names = id) → a.data.caseId = id) ∧
    ∀ (later : List Operation) (update : CaseUpdate),
      (after {} (ops ++ later)).CommitsOnlyTo a.data.caseId update.event
        ((after {} (ops ++ later)).submit a update) := by
  have hget : (after {} ops).get? id = some a := by
    rcases ha with hf | hg
    · exact get?_of_fetch hf
    · exact hg
  have hlast : lastNamed? (filings {} ops) id = some a.data.caseId := by
    have hnamed : (after {} ops).named? id = some a.data.caseId := by
      rw [named?, hget]
      rfl
    rw [named?_after] at hnamed
    simpa [named?, get?] using hnamed
  refine ⟨hlast, fun h => lastNamed?_eq_of_forall h hlast, ?_⟩
  intro later update
  exact (submitted_submit _ a update).commitsOnlyTo

section Strays

def caseNamed (id : CaseId) : CaseData := { caseId := id, state := .hearing }

def firstCase : CaseId := Clients.listedCase.caseId

def secondCase : CaseId := ⟨"22", by decide, by decide⟩

def strayUpdate : CaseUpdate := ⟨caseNamed secondCase, ⟨.updateCaseOnly, "", ""⟩⟩

/-- Both cases are inserted, and then the document of the second is written to the first. -/
def strayOps : List Operation :=
  [.insert (caseNamed firstCase), .insert (caseNamed secondCase),
    .transact firstCase fun _ => some strayUpdate]

theorem cases_found_as_filed_stray :
    (after {} strayOps).fetch firstCase = .ok ⟨caseNamed secondCase, 2⟩ ∧
    lastNamed? (filings {} strayOps) firstCase = some secondCase ∧
    (after {} (strayOps ++ [.touch secondCase])).CommitsOnlyTo secondCase strayUpdate.event
      ((after {} (strayOps ++ [.touch secondCase])).submit ⟨caseNamed secondCase, 2⟩ strayUpdate) ∧
    ((after {} (strayOps ++ [.touch secondCase])).submit ⟨caseNamed secondCase, 2⟩ strayUpdate).1 =
      .ok ⟨caseNamed secondCase, 3⟩ := by
  have hf : (after {} strayOps).fetch firstCase = .ok ⟨caseNamed secondCase, 2⟩ := rfl
  obtain ⟨hlast, -, hsubmit⟩ := cases_found_as_filed strayOps firstCase _ (.inl hf)
  exact ⟨hf, hlast, hsubmit [.touch secondCase] strayUpdate, rfl⟩

/-- A document that names another case stays where it was written. -/
theorem document_strays :
    ¬∀ (ops : List Operation) (id : CaseId) (a : CaseSnapshot),
      (after {} ops).get? id = some a → a.data.caseId = id := by
  intro hown
  have hget : (after {} strayOps).get? firstCase = some ⟨caseNamed secondCase, 2⟩ := by decide
  exact absurd (hown strayOps firstCase _ hget) (by decide)

end Strays

end HearingSync.MemoryStore
