import HearingSync.Proofs.CaseServer.Calls
/-!
Calls of the case store that go on at the same time, one request at a time, while the server takes
events from others too. The history records the events that were taken. Invariant: each goes on top
of what those before it lead to, and each program still makes sure of the rest of its call.
-/

namespace HearingSync

variable {ι : Type}

def replayEvents (id : CaseId) (history : List (Option ι × Accepted)) (a : CaseSnapshot) :
    CaseSnapshot :=
  (history.filter fun taken => taken.2.caseId = id).foldl
    (fun b taken => b.commit taken.2.update) a

section Replay

variable {id : CaseId} {history : List (Option ι × Accepted)} {a : CaseSnapshot}
  {writer : Option ι} {e : Accepted}

theorem replayEvents_snoc (h : e.caseId = id) :
    replayEvents id (history ++ [(writer, e)]) a = (replayEvents id history a).commit e.update := by
  simp [replayEvents, h]

theorem replayEvents_snoc_other (h : e.caseId ≠ id) :
    replayEvents id (history ++ [(writer, e)]) a = replayEvents id history a := by
  simp [replayEvents, h]

theorem foldl_commit_version (taken : List (Option ι × Accepted)) (a : CaseSnapshot) :
    (taken.foldl (fun b entry => b.commit entry.2.update) a).version =
      a.version + taken.length := by
  induction taken generalizing a with
  | nil => rfl
  | cons entry rest ih =>
    rw [List.foldl_cons, ih, CaseSnapshot.commit_version, List.length_cons]
    omega

end Replay

/-- The registry, how far each call has come, and which events were taken: of whose call, or of
none of them. -/
structure Traffic (ι : Type) where
  registry : Registry
  program : ι → Exchange RemoteCall.Ended
  history : List (Option ι × Accepted)

namespace Traffic

def initial (calls : ι → RemoteCall) (start : Registry) : Traffic ι where
  registry := start
  program := fun i => (calls i).program
  history := []

variable [DecidableEq ι]

def takenBy (i : ι) (history : List (Option ι × Accepted)) : List Accepted :=
  (history.filter fun taken => taken.1 = some i).map (·.2)

def answered (σ : Traffic ι) (i : ι) (rest : Exchange RemoteCall.Ended) (taken : Option Accepted)
    (registry : Registry) : Traffic ι where
  registry := registry
  program := fun j => if j = i then rest else σ.program j
  history := σ.history ++ taken.toList.map fun e => (some i, e)

/-- One request of one call, an event of somebody else, or a token for somebody else. -/
inductive Step (route : Request → Option Endpoint) : Traffic ι → Traffic ι → Prop where
  | request {σ : Traffic ι} {i : ι} {request : Request} {next : Reply → Exchange RemoteCall.Ended}
      {reply : Reply} {taken : Option Accepted} {registry : Registry} :
      σ.program i = .send request next →
      σ.registry.Answers route request reply taken registry →
      Step route σ (σ.answered i (next reply) taken registry)
  | foreign {σ : Traffic ι} {e : Accepted} : σ.registry.get? e.caseId = some e.before →
      e.update.data.caseId = e.caseId →
      Step route σ
        { σ with registry := σ.registry.install e, history := σ.history ++ [(none, e)] }
  | issue {σ : Traffic ι} {token : String} {id : CaseId} {a : CaseSnapshot} :
      σ.registry.get? id = some a → σ.registry.Fresh token →
      Step route σ { σ with registry := σ.registry.issue token id a.version }

inductive Execution (route : Request → Option Endpoint) : Traffic ι → Traffic ι → Prop where
  | nil {σ : Traffic ι} : Execution route σ σ
  | cons {σ τ υ : Traffic ι} : Step route σ τ → Execution route τ υ → Execution route σ υ

structure Invariant (calls : ι → RemoteCall) (route : Request → Option Endpoint)
    (start : Registry) (σ : Traffic ι) : Prop where
  sound : σ.registry.Sound
  replayed : ∀ id, σ.registry.get? id = (start.get? id).map (replayEvents id σ.history)
  chained : ∀ before writer e after, σ.history = before ++ (writer, e) :: after →
    (start.get? e.caseId).map (replayEvents e.caseId before) = some e.before
  computed : ∀ i e, (some i, e) ∈ σ.history → ∃ asked, (calls i).Computes asked e
  accounted : ∀ i, ∃ own, takenBy i σ.history = own.toList ∧
    (σ.program i).Ensures route (fun e => ∃ asked, (calls i).Computes asked e)
      (fun _ => (calls i).Accounts) σ.registry own

variable {calls : ι → RemoteCall} {route : Request → Option Endpoint} {start : Registry}
  {σ τ : Traffic ι}

theorem initial_invariant (hstart : start.Sound)
    (hroute : ∀ i, (calls i).client.Routed route (calls i).caseId) :
    Invariant calls route start (initial calls start) where
  sound := hstart
  replayed := fun _ => Option.map_id'.symm
  chained := by simp [initial]
  computed := by simp [initial]
  accounted := fun i => ⟨none, rfl, RemoteCall.ensures_program (hroute i)⟩

/-- An event that is taken goes on top of what the history leads to. -/
theorem install_chained (h : Invariant calls route start σ) {writer : Option ι} {e : Accepted}
    (hbefore : σ.registry.get? e.caseId = some e.before) (before : List (Option ι × Accepted))
    (w : Option ι) (f : Accepted) (after : List (Option ι × Accepted))
    (hsplit : σ.history ++ [(writer, e)] = before ++ (w, f) :: after) :
    (start.get? f.caseId).map (replayEvents f.caseId before) = some f.before := by
  rcases List.eq_nil_or_concat after with rfl | ⟨rest, last, rfl⟩
  · obtain ⟨rfl, hlast⟩ := List.append_inj' hsplit rfl
    cases hlast
    rw [← h.replayed e.caseId, hbefore]
  · have hshift : before ++ (w, f) :: rest.concat last = (before ++ (w, f) :: rest) ++ [last] := by
      simp
    obtain ⟨hhistory, -⟩ := List.append_inj' (hsplit.trans hshift) rfl
    exact h.chained before w f rest hhistory

theorem install_replayed (h : Invariant calls route start σ) {writer : Option ι} {e : Accepted}
    (hbefore : σ.registry.get? e.caseId = some e.before) (id : CaseId) :
    (σ.registry.install e).get? id =
      (start.get? id).map (replayEvents id (σ.history ++ [(writer, e)])) := by
  have hid := h.replayed id
  by_cases he : e.caseId = id
  · subst he
    rw [hbefore] at hid
    obtain ⟨a, ha, hreplay⟩ := Option.map_eq_some_iff.mp hid.symm
    rw [ha, Option.map_some, replayEvents_snoc rfl, hreplay]
    exact Filing.get?_put_self _ _ _
  · have hput : (σ.registry.install e).get? id = σ.registry.get? id :=
      Filing.get?_put_ne (Ne.symm he) _ _
    rw [hput, hid]
    congr 1
    funext a
    exact (replayEvents_snoc_other he).symm

theorem takenBy_snoc_self (i : ι) (history : List (Option ι × Accepted)) (e : Accepted) :
    takenBy i (history ++ [(some i, e)]) = takenBy i history ++ [e] := by
  simp [takenBy]

theorem takenBy_snoc_other {i : ι} {writer : Option ι} (h : writer ≠ some i)
    (history : List (Option ι × Accepted)) (e : Accepted) :
    takenBy i (history ++ [(writer, e)]) = takenBy i history := by
  simp [takenBy, h]

/-- What a call still makes sure of, it does so after others had their turn. -/
theorem accounted_later (h : Invariant calls route start σ) {registry : Registry}
    (hlater : σ.registry.Precedes registry) (i : ι) :
    ∃ own, takenBy i σ.history = own.toList ∧
      (σ.program i).Ensures route (fun e => ∃ asked, (calls i).Computes asked e)
        (fun _ => (calls i).Accounts) registry own := by
  obtain ⟨own, howned, hensures⟩ := h.accounted i
  exact ⟨own, howned, hensures.later hlater fun _ _ hresult => hresult⟩

theorem foreign_preserves_invariant (h : Invariant calls route start σ) {e : Accepted}
    (hbefore : σ.registry.get? e.caseId = some e.before)
    (hu : e.update.data.caseId = e.caseId) :
    Invariant calls route start
      { σ with registry := σ.registry.install e, history := σ.history ++ [(none, e)] } := by
  have hlater := Registry.precedes_install h.sound hbefore hu
  refine ⟨hlater.sound, install_replayed h hbefore, install_chained h hbefore, ?_, ?_⟩
  · intro i f hf
    exact h.computed i f (by simpa using hf)
  · intro i
    obtain ⟨own, howned, hensures⟩ := accounted_later h hlater i
    exact ⟨own, (takenBy_snoc_other (by simp) σ.history e).trans howned, hensures⟩

theorem issue_preserves_invariant (h : Invariant calls route start σ) {token : String}
    (hf : σ.registry.Fresh token) (id : CaseId) (version : Nat) :
    Invariant calls route start { σ with registry := σ.registry.issue token id version } := by
  have hlater : σ.registry.Precedes (σ.registry.issue token id version) :=
    Registry.precedes_issue h.sound hf version
  exact ⟨hlater.sound, h.replayed, h.chained, h.computed, accounted_later h hlater⟩

section Request

variable {i : ι} {request : Request} {next : Reply → Exchange RemoteCall.Ended} {reply : Reply}
  {registry : Registry}

theorem read_preserves_invariant (h : Invariant calls route start σ)
    (hi : σ.program i = .send request next)
    (ha : σ.registry.Answers route request reply none registry) :
    Invariant calls route start (σ.answered i (next reply) none registry) := by
  have hlater := ha.precedes_of_none h.sound
  have hhistory : (σ.answered i (next reply) none registry).history = σ.history :=
    List.append_nil _
  refine ⟨hlater.sound, ?_, ?_, ?_, ?_⟩
  · intro id
    rw [hhistory, ← h.replayed id]
    exact congrArg (Filing.get? · id) ha.cases_of_none
  · rw [hhistory]
    exact h.chained
  · rw [hhistory]
    exact h.computed
  · intro j
    rw [hhistory]
    by_cases hj : j = i
    · subst hj
      obtain ⟨own, howned, hensures⟩ := h.accounted j
      rw [hi] at hensures
      have hnext := (Exchange.ensures_send.mp hensures σ.registry h.sound.precedes_refl
        reply registry).1 ha
      refine ⟨own, howned, ?_⟩
      simpa only [answered, if_pos] using hnext
    · simpa only [answered, if_neg hj] using accounted_later h hlater j

theorem accept_preserves_invariant (h : Invariant calls route start σ) {e : Accepted}
    (hi : σ.program i = .send request next)
    (ha : σ.registry.Answers route request reply (some e) registry) :
    Invariant calls route start (σ.answered i (next reply) (some e) registry) := by
  obtain ⟨hbefore, hregistry⟩ := ha.of_some
  obtain ⟨own, howned, hensures⟩ := h.accounted i
  rw [hi] at hensures
  -- A call that had an event taken makes sure that no other is: here `own` was `none`.
  obtain ⟨rfl, hcomputes, hnext⟩ := (Exchange.ensures_send.mp hensures σ.registry
    h.sound.precedes_refl reply registry).2 e ha
  obtain ⟨asked, he⟩ := hcomputes
  have hu := he.caseId (h.sound.underOwnIds _ _ hbefore)
  have hlater := Registry.precedes_install h.sound hbefore hu
  rw [← hregistry] at hlater
  refine ⟨hlater.sound, ?_, install_chained h hbefore, ?_, ?_⟩
  · rw [hregistry]
    exact install_replayed h hbefore
  · intro j f hf
    rcases List.mem_append.mp hf with hf | hf
    · exact h.computed j f hf
    · obtain ⟨rfl, rfl⟩ : j = i ∧ f = e := by simpa using hf
      exact ⟨asked, he⟩
  · intro j
    by_cases hj : j = i
    · subst hj
      refine ⟨some e, ?_, ?_⟩
      · exact (takenBy_snoc_self j σ.history e).trans (by rw [howned]; rfl)
      · simpa only [answered, if_pos] using hnext
    · obtain ⟨own, howned, hensures⟩ := accounted_later h hlater j
      refine ⟨own, ?_, ?_⟩
      · exact (takenBy_snoc_other (by simpa using Ne.symm hj) σ.history e).trans howned
      · simpa only [answered, if_neg hj] using hensures

end Request

theorem step_preserves_invariant (hs : Step route σ τ) (h : Invariant calls route start σ) :
    Invariant calls route start τ := by
  cases hs with
  | @request i request next reply taken registry hi ha =>
    cases taken with
    | none => exact read_preserves_invariant h hi ha
    | some e => exact accept_preserves_invariant h hi ha
  | foreign hbefore hu => exact foreign_preserves_invariant h hbefore hu
  | issue _ hf => exact issue_preserves_invariant h hf _ _

theorem execution_preserves_invariant (hs : Execution route σ τ)
    (h : Invariant calls route start σ) : Invariant calls route start τ := by
  induction hs with
  | nil => exact h
  | cons hstep _ ih => exact ih (step_preserves_invariant hstep h)

end Traffic

end HearingSync
