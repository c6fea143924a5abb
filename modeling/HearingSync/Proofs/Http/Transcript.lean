import HearingSync.Http.Exchange
import HearingSync.Proofs.Runs
/-!
What goes over the wire while a program talks to servers. Main statements: a program against a
script has one transcript, whose requests are those of its run, and the transcript of a program that
goes on is made of the transcripts of its parts. So every monad with exchanges at its bottom has the
wire as a part of its state, which nothing but an exchange adds to.
-/

namespace HearingSync

open Runs (Run)

structure Turn where
  request : Request
  reply : Reply

namespace Exchange

variable {α β : Type} {u w : List Turn} {a a' : α} {b : β}

/-- The program may have these turns and end with that result. -/
inductive Yields : Exchange α → List Turn → α → Prop where
  | done (a : α) : Yields (.done a) [] a
  | send {request : Request} {next : Reply → Exchange α} {reply : Reply} {rest : List Turn}
      {a : α} :
      Yields (next reply) rest a → Yields (.send request next) (⟨request, reply⟩ :: rest) a

theorem yields_done (h : Yields (.done a) u a') : u = [] ∧ a' = a := by
  cases h
  exact ⟨rfl, rfl⟩

theorem yields_bind {x : Exchange α} {f : α → Exchange β} (h : (x >>= f).Yields w b) :
    ∃ u v a, w = u ++ v ∧ x.Yields u a ∧ (f a).Yields v b := by
  induction x generalizing w with
  | done a => exact ⟨[], w, a, rfl, .done a, h⟩
  | send request next ih =>
    cases h with
    | send h =>
      obtain ⟨u, v, a, rfl, hx, hf⟩ := ih _ h
      exact ⟨_ :: u, v, a, rfl, .send hx, hf⟩

theorem yields_return {x : Exchange α} {f : α → β}
    (h : (do return f (← x) : Exchange β).Yields w b) : ∃ a, x.Yields w a ∧ b = f a := by
  obtain ⟨u, v, a, rfl, hx, hf⟩ := yields_bind h
  obtain ⟨rfl, rfl⟩ := yields_done hf
  exact ⟨a, by rwa [List.append_nil], rfl⟩

/-- A program that asks first and then sends nothing more tells what it makes of the answer. -/
theorem run_lift_bind {ε : Type} {x : Exchange α} {f : α → ExceptT ε Exchange β}
    {told : α → Except ε β} (h : ∀ a, (f a).run = .done (told a)) :
    ((liftM x : ExceptT ε Exchange α) >>= f).run = (do return told (← x)) := by
  rw [ExceptT.run_bind]
  refine (bind_map_left Except.ok x _).trans ?_
  exact bind_congr h

def transcript : Exchange α → List Reply → List Turn
  | done _, _ => []
  | send request next, script =>
    ⟨request, script.headD exhausted⟩ :: transcript (next (script.headD exhausted)) script.tail

theorem yields_transcript (x : Exchange α) (script : List Reply) :
    x.Yields (x.transcript script) (x.run script).1 := by
  induction x generalizing script with
  | done a => exact .done a
  | send request next ih =>
    cases script with
    | nil => exact .send (ih exhausted [])
    | cons reply rest => exact .send (ih reply rest)

theorem transcript_requests (x : Exchange α) (script : List Reply) :
    (x.transcript script).map Turn.request = (x.run script).2 := by
  induction x generalizing script with
  | done a => rfl
  | send request next ih =>
    cases script with
    | nil => exact congrArg (request :: ·) (ih exhausted [])
    | cons reply rest => exact congrArg (request :: ·) (ih reply rest)

end Exchange

instance : Runs Exchange (List Turn) where
  Run x wire a wire' := ∃ u, wire' = wire ++ u ∧ x.Yields u a
  of_pure h := by
    obtain ⟨u, ht, h⟩ := h
    obtain ⟨rfl, rfl⟩ := Exchange.yields_done h
    exact ⟨rfl, ht.trans (List.append_nil _)⟩
  of_bind h := by
    obtain ⟨w, hu, h⟩ := h
    obtain ⟨u, v, a, rfl, hx, hf⟩ := Exchange.yields_bind h
    exact ⟨a, _, ⟨u, rfl, hx⟩, v, hu.trans (List.append_assoc _ u v).symm, hf⟩

/-- The wire is a part of the state, and an exchange adds its turns to it and does no more. -/
class Networked (m : Type → Type) [Monad m] [MonadLiftT Exchange m] (σ : outParam Type)
    [Runs m σ] where
  wire : σ → List Turn
  speak : σ → List Turn → σ
  wire_speak : ∀ s u, wire (speak s u) = wire s ++ u
  of_lift : ∀ {α : Type} {x : Exchange α} {s t : σ} {a : α}, Run (liftM x : m α) s a t →
    ∃ u, t = speak s u ∧ x.Yields u a

instance : Networked Exchange (List Turn) where
  wire s := s
  speak s u := s ++ u
  wire_speak _ _ := rfl
  of_lift h := h

instance {m : Type → Type} [Monad m] [MonadLiftT Exchange m] {σ τ : Type} [Runs m σ]
    [Networked m σ] : Networked (StateT τ m) (τ × σ) where
  wire s := Networked.wire m s.2
  speak s u := (s.1, Networked.speak m s.2 u)
  wire_speak s u := Networked.wire_speak s.2 u
  of_lift {α x s t a} h := by
    obtain ⟨hx, ht⟩ := Run.of_stateLift (x := (liftM x : m α)) h
    obtain ⟨u, hu, hx⟩ := Networked.of_lift hx
    exact ⟨u, Prod.ext ht hu, hx⟩

theorem turns_of_lift {m : Type → Type} [Monad m] [MonadLiftT Exchange m] {σ : Type} [Runs m σ]
    [Networked m σ] {α : Type} {x : Exchange α} {s t : σ} {a : α} (h : Run (liftM x : m α) s a t) :
    ∃ u, Networked.wire m t = Networked.wire m s ++ u ∧ x.Yields u a := by
  obtain ⟨u, rfl, hx⟩ := Networked.of_lift h
  exact ⟨u, Networked.wire_speak s u, hx⟩

end HearingSync
