import HearingSync.Json.Value
import HearingSync.Url.Parse
/-!
Programs that talk to servers: each sends a request, waits for the reply and goes on. What servers
do is no part of a program, so the same program can be run against a script or in turns with
others. Main statement: programs are a lawful monad.
-/

namespace HearingSync

inductive Method where
  | get
  | post
  deriving DecidableEq, Repr

def Method.word : Method → String
  | .get => "GET"
  | .post => "POST"

structure Request where
  method : Method
  url : Url
  headers : List (String × String)
  body : Option Json

structure Response where
  status : Nat
  body : String
  deriving DecidableEq, Repr

def Response.isSuccess (r : Response) : Bool := 200 ≤ r.status && r.status < 300

def Response.isServerError (r : Response) : Bool := 500 ≤ r.status && r.status < 600

inductive Reply where
  | response (r : Response)
  | dropped
  deriving DecidableEq, Repr

/-- What becomes of a server's answer. Responses of some statuses end with their headers. An
answer that only announces another, or whose status has not three digits, is none. -/
def Reply.ofServer (status : Nat) (body : String) : Reply :=
  if 999 < status ∨ (status < 200 ∧ status ≠ 101) then .dropped
  else .response { status, body := if [101, 204, 304].contains status then "" else body }

inductive Exchange (α : Type) where
  | done (a : α)
  | send (request : Request) (next : Reply → Exchange α)

namespace Exchange

variable {α β γ : Type}

def bind : Exchange α → (α → Exchange β) → Exchange β
  | done a, f => f a
  | send request next, f => send request fun reply => bind (next reply) f

instance : Monad Exchange where
  pure := done
  bind := bind

theorem pure_def (a : α) : (pure a : Exchange α) = done a := rfl

theorem done_bind (a : α) (f : α → Exchange β) : (done a >>= f) = f a := rfl

theorem send_bind (request : Request) (next : Reply → Exchange α) (f : α → Exchange β) :
    (send request next >>= f) = send request fun reply => next reply >>= f := rfl

theorem bind_done (x : Exchange α) : (x >>= done) = x := by
  induction x with
  | done a => rfl
  | send request next ih => simp only [send_bind, ih]

theorem bind_bind (x : Exchange α) (f : α → Exchange β) (g : β → Exchange γ) :
    (x >>= f >>= g) = (x >>= fun a => f a >>= g) := by
  induction x with
  | done a => rfl
  | send request next ih => simp only [send_bind, ih]

instance : LawfulMonad Exchange :=
  LawfulMonad.mk' Exchange (fun x => bind_done x) (fun _ _ => rfl) bind_bind

/-- What a server answers once its script is at an end. -/
def exhausted : Reply := .response { status := 500, body := "script exhausted" }

def run : Exchange α → List Reply → α × List Request
  | done a, _ => (a, [])
  | send request next, script =>
    let (reply, rest) :=
      match script with
      | [] => (exhausted, [])
      | reply :: rest => (reply, rest)
    let (a, requests) := run (next reply) rest
    (a, request :: requests)

end Exchange

end HearingSync
