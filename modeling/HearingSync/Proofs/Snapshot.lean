import HearingSync.Case
import HearingSync.Filing
/-!
The order of the snapshots of a case. A version is never used for a second document, so a snapshot
that is looked at again is either the same or of a higher version. Main statement: a snapshot with
the version of the current one is the current one.
-/

namespace HearingSync

namespace CaseSnapshot

/-- What may be found where `a` was found before: `a`, or a snapshot of a higher version. -/
def LeadsTo (a b : CaseSnapshot) : Prop := a = b ∨ a.version < b.version

variable {a b c : CaseSnapshot}

theorem leadsTo_refl (a : CaseSnapshot) : a.LeadsTo a := Or.inl rfl

theorem LeadsTo.trans (h : a.LeadsTo b) (k : b.LeadsTo c) : a.LeadsTo c := by
  rcases h with rfl | h
  · exact k
  rcases k with rfl | k
  · exact Or.inr h
  · exact Or.inr (Nat.lt_trans h k)

theorem LeadsTo.version_le (h : a.LeadsTo b) : a.version ≤ b.version := by
  rcases h with rfl | h
  · exact Nat.le_refl _
  · exact Nat.le_of_lt h

theorem LeadsTo.eq_of_version_eq (h : a.LeadsTo b) (hv : b.version = a.version) : b = a := by
  rcases h with rfl | h
  · rfl
  · omega

theorem leadsTo_of_version_succ (h : b.version = a.version + 1) : a.LeadsTo b :=
  Or.inr (by omega)

@[simp] theorem commit_version (a : CaseSnapshot) (u : CaseUpdate) :
    (a.commit u).version = a.version + 1 := rfl

/-- An event sets the state of a document and leaves its id. -/
@[simp] theorem commit_caseId (a : CaseSnapshot) (u : CaseUpdate) :
    (a.commit u).data.caseId = u.data.caseId := by
  unfold commit
  cases u.event.type <;> rfl

end CaseSnapshot

namespace Filing

variable {f g h : Filing CaseId CaseSnapshot} {id : CaseId} {a b : CaseSnapshot}

def LeadsTo (f g : Filing CaseId CaseSnapshot) : Prop :=
  ∀ id a, f.get? id = some a → ∃ b, g.get? id = some b ∧ a.LeadsTo b

/-- Each case is filed under the id that its document carries. -/
def UnderOwnIds (f : Filing CaseId CaseSnapshot) : Prop :=
  ∀ id a, f.get? id = some a → a.data.caseId = id

theorem leadsTo_refl (f : Filing CaseId CaseSnapshot) : f.LeadsTo f :=
  fun _ a ha => ⟨a, ha, a.leadsTo_refl⟩

theorem LeadsTo.trans (hfg : f.LeadsTo g) (hgh : g.LeadsTo h) : f.LeadsTo h := by
  intro id a ha
  obtain ⟨b, hb, hab⟩ := hfg id a ha
  obtain ⟨c, hc, hbc⟩ := hgh id b hb
  exact ⟨c, hc, hab.trans hbc⟩

theorem leadsTo_put (ha : f.get? id = some a) (hab : a.LeadsTo b) : f.LeadsTo (f.put id b) := by
  intro l c hc
  by_cases hl : l = id
  · subst l
    have hca : a = c := Option.some.inj (ha.symm.trans hc)
    exact ⟨b, get?_put_self id b f, hca ▸ hab⟩
  · exact ⟨c, by rw [get?_put_ne hl, hc], c.leadsTo_refl⟩

theorem leadsTo_put_new (hn : f.get? id = none) (b : CaseSnapshot) : f.LeadsTo (f.put id b) := by
  intro l c hc
  have hl : l ≠ id := by
    rintro rfl
    rw [hn] at hc
    cases hc
  exact ⟨c, by rw [get?_put_ne hl, hc], c.leadsTo_refl⟩

theorem underOwnIds_nil : UnderOwnIds [] :=
  fun _ _ h => nomatch h

theorem UnderOwnIds.put (hf : f.UnderOwnIds) (hb : b.data.caseId = id) :
    (f.put id b).UnderOwnIds := by
  intro l c hc
  by_cases hl : l = id
  · subst l
    rw [get?_put_self] at hc
    rw [← Option.some.inj hc, hb]
  · rw [get?_put_ne hl] at hc
    exact hf l c hc

end Filing

end HearingSync
