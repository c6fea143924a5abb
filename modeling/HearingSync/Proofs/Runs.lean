import Mathlib.Order.Defs.Unbundled
/-!
Runs of programs, in every monad that can tell of them. Main statements: what a run of a program is
made of, that a program keeps what each of its steps keeps, and that it fails only as its steps do.
-/

namespace HearingSync

/-- `Run x s a t`: the program `x`, started in the state `s`, may end in the state `t` with the
result `a`. What servers and services answer is open, so there may be many such ends. -/
class Runs (m : Type → Type) [Monad m] (σ : outParam Type) where
  Run : {α : Type} → m α → σ → α → σ → Prop
  of_pure : ∀ {α : Type} {a b : α} {s t : σ}, Run (pure a) s b t → b = a ∧ t = s
  of_bind : ∀ {α β : Type} {x : m α} {f : α → m β} {s u : σ} {b : β},
    Run (x >>= f) s b u → ∃ a t, Run x s a t ∧ Run (f a) t b u

open Runs (Run)

variable {m : Type → Type} [Monad m] {σ τ ε ε' α β : Type} [Runs m σ] {s t u : σ}

instance : Runs Id Unit where
  Run x _ a _ := a = x.run
  of_pure h := ⟨h, rfl⟩
  of_bind h := ⟨_, (), rfl, h⟩

instance : Runs (StateT τ m) (τ × σ) where
  Run x s a t := Run (x.run s.1) s.2 (a, t.1) t.2
  of_pure h := by
    obtain ⟨h, ht⟩ := Runs.of_pure h
    exact ⟨congrArg Prod.fst h, Prod.ext (congrArg Prod.snd h) ht⟩
  of_bind h := by
    rw [StateT.run_bind] at h
    obtain ⟨p, t, hx, hf⟩ := Runs.of_bind h
    exact ⟨p.1, (p.2, t), hx, hf⟩

namespace Runs

theorem Run.of_exceptPure {a : α} {r : Except ε α}
    (h : Run (pure a : ExceptT ε m α).run s r t) : r = .ok a ∧ t = s := of_pure h

theorem Run.of_throw {e : ε} {r : Except ε α}
    (h : Run (throw e : ExceptT ε m α).run s r t) : r = .error e ∧ t = s := of_pure h

theorem Run.of_exceptBind {x : ExceptT ε m α} {f : α → ExceptT ε m β} {r : Except ε β}
    (h : Run (x >>= f).run s r u) :
    (∃ e, Run x.run s (.error e) u ∧ r = .error e) ∨
      ∃ a t, Run x.run s (.ok a) t ∧ Run (f a).run t r u := by
  rw [ExceptT.run_bind] at h
  obtain ⟨answer, t, hx, hf⟩ := of_bind h
  cases answer with
  | error e =>
    obtain ⟨hr, rfl⟩ := of_pure hf
    exact .inl ⟨e, hx, hr⟩
  | ok a => exact .inr ⟨a, t, hx, hf⟩

theorem Run.of_stateLift {x : m α} {a : α} {p q : τ × σ}
    (h : Run (liftM x : StateT τ m α) p a q) : Run x p.2 a q.2 ∧ q.1 = p.1 := by
  obtain ⟨b, t, hx, hp⟩ := of_bind (s := p.2) h
  obtain ⟨hb, ht⟩ := of_pure hp
  obtain ⟨rfl, hq⟩ := Prod.mk.inj hb
  exact ⟨ht ▸ hx, hq⟩

theorem Run.of_set {v : τ} {a : PUnit} {p q : τ × σ} (h : Run (set v : StateT τ m PUnit) p a q) :
    q = (v, p.2) := by
  obtain ⟨ha, ht⟩ := of_pure (s := p.2) h
  exact Prod.ext (Prod.mk.inj ha).2 ht

section Lawful

variable [LawfulMonad m]

theorem Run.of_map {f : α → β} {x : m α} {b : β} (h : Run (f <$> x) s b t) :
    ∃ a, Run x s a t ∧ b = f a := by
  rw [map_eq_pure_bind] at h
  obtain ⟨a, t', hx, hf⟩ := of_bind h
  obtain ⟨hb, rfl⟩ := of_pure hf
  exact ⟨a, hx, hb⟩

theorem Run.of_adapt {f : ε → ε'} {x : ExceptT ε m α} {r : Except ε' α}
    (h : Run (x.adapt f).run s r t) : ∃ answer, Run x.run s answer t ∧ r = answer.mapError f :=
  of_map h

theorem Run.of_exceptLift {x : m α} {r : Except ε α}
    (h : Run (liftM x : ExceptT ε m α).run s r t) : ∃ a, Run x s a t ∧ r = .ok a :=
  Run.of_map (f := Except.ok (ε := ε)) h

end Lawful

end Runs

/-- Whatever comes of the program, its end stands to its start as `R` says. -/
def Keeps (R : σ → σ → Prop) (x : m α) : Prop := ∀ s a t, Run x s a t → R s t

namespace Keeps

variable {R : σ → σ → Prop} [IsPreorder σ R]

theorem exceptPure (a : α) : Keeps R (pure a : ExceptT ε m α).run := by
  intro s r t h
  obtain ⟨-, rfl⟩ := h.of_exceptPure
  exact refl_of R t

theorem throw (e : ε) : Keeps R (MonadExcept.throw e : ExceptT ε m α).run := by
  intro s r t h
  obtain ⟨-, rfl⟩ := h.of_throw
  exact refl_of R t

theorem exceptBind {x : ExceptT ε m α} {f : α → ExceptT ε m β} (hx : Keeps R x.run)
    (hf : ∀ a, Keeps R (f a).run) : Keeps R (x >>= f).run := by
  intro s r u h
  rcases h.of_exceptBind with ⟨e, hx', -⟩ | ⟨a, t, hx', hf'⟩
  · exact hx s _ u hx'
  · exact trans_of R (hx s _ t hx') (hf a t r u hf')

section Lawful

variable [LawfulMonad m]

omit [IsPreorder σ R] in
theorem adapt {f : ε → ε'} {x : ExceptT ε m α} (hx : Keeps R x.run) :
    Keeps R (x.adapt f).run := by
  intro s r t h
  obtain ⟨answer, hx', -⟩ := h.of_adapt
  exact hx s answer t hx'

omit [IsPreorder σ R] in
theorem exceptLift {x : m α} (hx : Keeps R x) : Keeps R (liftM x : ExceptT ε m α).run := by
  intro s r t h
  obtain ⟨a, hx', -⟩ := h.of_exceptLift
  exact hx s a t hx'

end Lawful

end Keeps

def FailsOnly (P : ε → Prop) (x : ExceptT ε m α) : Prop := ∀ s e t, Run x.run s (.error e) t → P e

namespace FailsOnly

variable {P : ε → Prop}

theorem pure (a : α) : FailsOnly P (Pure.pure a : ExceptT ε m α) := by
  intro s e t h
  cases h.of_exceptPure.1

theorem bind {x : ExceptT ε m α} {f : α → ExceptT ε m β} (hx : FailsOnly P x)
    (hf : ∀ a, FailsOnly P (f a)) : FailsOnly P (x >>= f) := by
  intro s e u h
  rcases h.of_exceptBind with ⟨e', hx', he⟩ | ⟨a, t, -, hf'⟩
  · cases he
    exact hx s e u hx'
  · exact hf a t e u hf'

variable [LawfulMonad m]

theorem lift (x : m α) : FailsOnly P (liftM x : ExceptT ε m α) := by
  intro s e t h
  obtain ⟨a, -, he⟩ := h.of_exceptLift
  cases he

theorem adapt {f : ε' → ε} (x : ExceptT ε' m α) (hf : ∀ e, P (f e)) :
    FailsOnly P (x.adapt f) := by
  intro s e t h
  obtain ⟨answer, -, he⟩ := h.of_adapt
  cases answer with
  | error e' => cases he; exact hf e'
  | ok a => cases he

end FailsOnly

end HearingSync
