import HearingSync.Http.CaseServer
import HearingSync.Proofs.Snapshot
/-!
The server on the other side of the case store's requests. It keeps one snapshot for each case and
the tokens that it issued, and it takes an event when the event names the current version, or a
token that was issued for it. What it makes of a request is not of our making: `route` says which
document or form a request is for. Main statement: what a client was shown is never of a later
version than what the server has.
-/

namespace HearingSync

def CaseServer.eventBody (update : CaseUpdate) (submission : Submission) : Json :=
  .object [("event", update.event.encode), ("data", update.data.encode), submission.member]

theorem Json.ofNat_injective {m n : Nat} (h : Json.ofNat m = Json.ofNat n) : m = n := by
  have hr : m.repr = n.repr := Json.number.inj h
  have hd : Nat.toDigits 10 m = Nat.toDigits 10 n := by
    rw [← Nat.toList_repr, ← Nat.toList_repr, hr]
  have ho : Nat.ofDigitChars 10 (Nat.toDigits 10 m) 0 = Nat.ofDigitChars 10 (Nat.toDigits 10 n) 0 :=
    by rw [hd]
  rwa [Nat.ofDigitChars_ten_toDigits, Nat.ofDigitChars_ten_toDigits] at ho

theorem Submission.member_injective {a b : Submission} (h : a.member = b.member) : a = b := by
  cases a with
  | version m =>
    cases b with
    | version n => rw [Json.ofNat_injective (Prod.mk.inj h).2]
    | token t => exact absurd (Prod.mk.inj h).1 (by decide)
  | token t =>
    cases b with
    | version n => exact absurd (Prod.mk.inj h).1 (by decide)
    | token u => cases h; rfl

/-- Two updates that look the same on the wire may differ only in the name of a state. -/
theorem CaseServer.eventBody_injective {u v : CaseUpdate} {a b : Submission}
    (h : eventBody u a = eventBody v b) : u.encode = v.encode ∧ a = b := by
  simp only [eventBody, Json.object.injEq, List.cons.injEq, Prod.mk.injEq, true_and, and_true] at h
  obtain ⟨hevent, hdata, hmember⟩ := h
  refine ⟨?_, Submission.member_injective hmember⟩
  simp only [CaseUpdate.encode, hevent, hdata]

theorem CaseUpdate.caseId_of_encode {u v : CaseUpdate} (h : u.encode = v.encode) :
    u.data.caseId = v.data.caseId := by
  simp only [CaseUpdate.encode, CaseData.encode, Json.object.injEq, List.cons.injEq,
    Prod.mk.injEq, true_and] at h
  exact Identifier.ext (Json.string.inj h.1.1)

inductive Endpoint where
  | case (id : CaseId)
  | token (id : CaseId)
  | events (id : CaseId)
  deriving DecidableEq

structure Accepted where
  caseId : CaseId
  before : CaseSnapshot
  update : CaseUpdate

def Accepted.installed (e : Accepted) : CaseSnapshot := e.before.commit e.update

def Accepted.Carries (e : Accepted) (id : CaseId) (a : CaseSnapshot) (update : CaseUpdate) : Prop :=
  e.caseId = id ∧ e.before = a ∧ e.update.encode = update.encode

/-- The cases, and each token with the case and the version that it is for. -/
structure Registry where
  cases : Filing CaseId CaseSnapshot
  issued : List (String × CaseId × Nat) := []

namespace Registry

def get? (s : Registry) (id : CaseId) : Option CaseSnapshot := s.cases.get? id

def issue (s : Registry) (token : String) (id : CaseId) (version : Nat) : Registry :=
  { s with issued := (token, id, version) :: s.issued }

def install (s : Registry) (e : Accepted) : Registry :=
  { s with cases := s.cases.put e.caseId e.installed }

def Admits (s : Registry) (id : CaseId) (current : CaseSnapshot) : Submission → Prop
  | .version expected => expected = current.version
  | .token token => (token, id, current.version) ∈ s.issued

def Fresh (s : Registry) (token : String) : Prop := ∀ p, (token, p) ∉ s.issued

/-- What may come back for a request, which event was taken with it, and the registry afterwards.
An event is taken or refused by what it was submitted against; whatever else goes wrong, and a
request that gets lost, changes nothing. -/
inductive Answers (route : Request → Option Endpoint) (s : Registry) (request : Request) :
    Reply → Option Accepted → Registry → Prop where
  | case {id a r} : route request = some (.case id) → s.get? id = some a → r.isSuccess = true →
      Json.decodeText CaseSnapshot.decode r.body = .ok a →
      Answers route s request (.response r) none s
  | token {id a token r} : route request = some (.token id) → s.get? id = some a →
      s.Fresh token → r.isSuccess = true →
      Json.decodeText IssuedToken.record.decode r.body = .ok ⟨token, a⟩ →
      Answers route s request (.response r) none (s.issue token id a.version)
  | accept {id a update submission r} : route request = some (.events id) →
      request.body = some (CaseServer.eventBody update submission) → s.get? id = some a →
      s.Admits id a submission → r.isSuccess = true →
      Json.decodeText CaseSnapshot.decode r.body = .ok (a.commit update) →
      Answers route s request (.response r) (some ⟨id, a, update⟩) (s.install ⟨id, a, update⟩)
  | stale {id a update submission body} : route request = some (.events id) →
      request.body = some (CaseServer.eventBody update submission) → s.get? id = some a →
      ¬s.Admits id a submission → Answers route s request (.response ⟨409, body⟩) none s
  | refused {r} : r.isSuccess = false → r.status ≠ 409 →
      Answers route s request (.response r) none s
  | lost : Answers route s request .dropped none s

structure Sound (s : Registry) : Prop where
  underOwnIds : s.cases.UnderOwnIds
  onePerToken : ∀ token p q, (token, p) ∈ s.issued → (token, q) ∈ s.issued → p = q

/-- What the registry may be like some requests later. -/
structure Precedes (s t : Registry) : Prop where
  cases : s.cases.LeadsTo t.cases
  issued : ∀ p ∈ s.issued, p ∈ t.issued
  sound : t.Sound

variable {s t u : Registry} {id : CaseId} {a b : CaseSnapshot}

theorem Sound.precedes_refl (h : s.Sound) : s.Precedes s :=
  ⟨Filing.leadsTo_refl s.cases, fun _ hp => hp, h⟩

theorem Precedes.trans (h : s.Precedes t) (k : t.Precedes u) : s.Precedes u :=
  ⟨h.cases.trans k.cases, fun p hp => k.issued p (h.issued p hp), k.sound⟩

theorem precedes_issue (h : s.Sound) {token : String} (hf : s.Fresh token) (version : Nat) :
    s.Precedes (s.issue token id version) := by
  refine ⟨Filing.leadsTo_refl s.cases, fun _ hp => List.mem_cons_of_mem _ hp, h.underOwnIds, ?_⟩
  intro tok p q hp hq
  simp only [issue, List.mem_cons, Prod.mk.injEq] at hp hq
  rcases hp with ⟨rfl, rfl⟩ | hp
  · rcases hq with ⟨-, rfl⟩ | hq
    · rfl
    · exact absurd hq (hf q)
  · rcases hq with ⟨rfl, rfl⟩ | hq
    · exact absurd hp (hf p)
    · exact h.onePerToken tok p q hp hq

theorem precedes_install (h : s.Sound) {e : Accepted} (ha : s.get? e.caseId = some e.before)
    (hu : e.update.data.caseId = e.caseId) : s.Precedes (s.install e) where
  cases := Filing.leadsTo_put ha (CaseSnapshot.leadsTo_of_version_succ rfl)
  issued := fun _ hp => hp
  sound :=
    { underOwnIds := h.underOwnIds.put (by rw [Accepted.installed, CaseSnapshot.commit_caseId, hu])
      onePerToken := h.onePerToken }

variable {route : Request → Option Endpoint} {request : Request} {reply : Reply}

theorem Answers.cases_of_none (h : s.Answers route request reply none t) : t.cases = s.cases := by
  cases h <;> rfl

theorem Answers.precedes_of_none (h : s.Answers route request reply none t) (hs : s.Sound) :
    s.Precedes t := by
  cases h with
  | case _ _ _ _ => exact hs.precedes_refl
  | token _ _ hf _ _ => exact precedes_issue hs hf _
  | stale _ _ _ _ => exact hs.precedes_refl
  | refused _ _ => exact hs.precedes_refl
  | lost => exact hs.precedes_refl

theorem Answers.of_some {e : Accepted} (h : s.Answers route request reply (some e) t) :
    s.get? e.caseId = some e.before ∧ t = s.install e := by
  cases h with
  | accept _ _ hg _ _ _ => exact ⟨hg, rfl⟩

/-- What a client knows of a snapshot that it was shown. -/
def Shown (id : CaseId) (s : Registry) (a : CaseSnapshot) : Prop :=
  a.data.caseId = id ∧ ∃ b, s.get? id = some b ∧ a.LeadsTo b

theorem Shown.later (h : Shown id s a) (hst : s.Precedes t) : Shown id t a := by
  obtain ⟨ha, b, hb, hab⟩ := h
  obtain ⟨c, hc, hbc⟩ := hst.cases id b hb
  exact ⟨ha, c, hc, hab.trans hbc⟩

theorem Sound.shown (h : s.Sound) (ha : s.get? id = some a) : Shown id s a :=
  ⟨h.underOwnIds id a ha, a, ha, a.leadsTo_refl⟩

/-- An event that names the version of a snapshot that was shown goes on top of that snapshot or
nowhere. -/
theorem Shown.eq_of_admits_version (h : Shown id s a) (hb : s.get? id = some b)
    (hadmits : s.Admits id b (.version a.version)) : b = a := by
  obtain ⟨-, c, hc, hac⟩ := h
  obtain rfl : c = b := Option.some.inj (hc.symm.trans hb)
  exact hac.eq_of_version_eq (Eq.symm hadmits)

/-- The same for an event that carries the token that was issued with the snapshot. -/
theorem Shown.eq_of_admits_token (h : Shown id s a) (hs : s.Sound) {token : String}
    (ht : (token, id, a.version) ∈ s.issued) (hb : s.get? id = some b)
    (hadmits : s.Admits id b (.token token)) : b = a := by
  have hv := hs.onePerToken token _ _ ht hadmits
  exact h.eq_of_admits_version hb (Prod.mk.inj hv).2

end Registry

end HearingSync
