import HearingSync.Proofs.Http.Sending
/-!
Programs against a server that follows a script. Main statements: a program that goes on takes up
the script where its first part left it, and a request is sent again for each reply of the script
that is no response, until one is or no attempt is left.
-/

namespace HearingSync

namespace Exchange

variable {α β : Type}

theorem run_send (request : Request) (next : Reply → Exchange α) (script : List Reply) :
    (send request next).run script =
      (((next (script.headD exhausted)).run script.tail).1,
        request :: ((next (script.headD exhausted)).run script.tail).2) := by
  cases script <;> rfl

/-- A program goes on where its first part left the script. -/
theorem run_bind {x : Exchange α} {f : α → Exchange β} {script : List Reply} {a : α}
    {requests : List Request} (h : x.run script = (a, requests)) :
    (x >>= f).run script =
      (((f a).run (script.drop requests.length)).1,
        requests ++ ((f a).run (script.drop requests.length)).2) := by
  induction x generalizing script requests with
  | done b =>
    obtain ⟨rfl, rfl⟩ := Prod.mk.inj h
    rfl
  | send request next ih =>
    rw [run_send] at h
    obtain ⟨ha, rfl⟩ := Prod.mk.inj h
    rw [send_bind, run_send, ih (script.headD exhausted) (Prod.ext ha rfl)]
    simp

theorem run_return {x : Exchange α} {f : α → β} {script : List Reply} {a : α}
    {requests : List Request} (h : x.run script = (a, requests)) :
    (do return f (← x) : Exchange β).run script = (f a, requests) := by
  rw [run_bind h]
  simp [pure_def, run]

end Exchange

namespace Client

variable {c : Client} {method : Method} {path : String} {body : Option Json} {request : Request}

def dropCause (request : Request) : String :=
  "error sending request for url (" ++ request.url.text ++ ")"

theorem sendOnce_of_request (h : c.request method path body = .ok request) :
    c.sendOnce method path body = .send request fun
      | .response r => .done (.ok r)
      | .dropped => .done (.error (dropCause request)) := by
  rw [sendOnce, h]
  rfl

theorem run_sendOnce_of_response (h : c.request method path body = .ok request) (r : Response)
    (rest : List Reply) :
    (c.sendOnce method path body).run (.response r :: rest) = (.ok r, [request]) := by
  rw [sendOnce_of_request h]
  rfl

theorem run_sendOnce_of_dropped (h : c.request method path body = .ok request)
    (rest : List Reply) :
    (c.sendOnce method path body).run (.dropped :: rest) =
      (.error (dropCause request), [request]) := by
  rw [sendOnce_of_request h]
  rfl

theorem run_retry_succ_of_dropped (h : c.request method path body = .ok request) (n : Nat)
    (rest : List Reply) :
    (retry (c.sendOnce method path body) (n + 1)).run (.dropped :: rest) =
      (((retry (c.sendOnce method path body) n).run rest).1,
        request :: ((retry (c.sendOnce method path body) n).run rest).2) :=
  Exchange.run_bind (run_sendOnce_of_dropped h rest)

/-- The request is sent until a response comes, and the response is the answer. -/
theorem run_retry_of_response (h : c.request method path body = .ok request) {k n : Nat}
    (hk : k ≤ n) (r : Response) (rest : List Reply) :
    (retry (c.sendOnce method path body) n).run (List.replicate k .dropped ++ .response r :: rest) =
      (.ok r, List.replicate (k + 1) request) := by
  induction k generalizing n with
  | zero =>
    rw [List.replicate_zero, List.nil_append]
    cases n with
    | zero =>
      rw [retry, run_sendOnce_of_response h]
      rfl
    | succ n =>
      rw [retry, Exchange.run_bind (run_sendOnce_of_response h r rest)]
      rfl
  | succ k ih =>
    cases n with
    | zero => exact absurd hk (Nat.not_succ_le_zero k)
    | succ n =>
      rw [List.replicate_succ, List.cons_append, run_retry_succ_of_dropped h,
        ih (Nat.le_of_succ_le_succ hk)]
      rfl

/-- Where no response comes the request is sent once more than it may be repeated. -/
theorem run_retry_of_dropped (h : c.request method path body = .ok request) (n : Nat)
    (rest : List Reply) :
    (retry (c.sendOnce method path body) n).run (List.replicate (n + 1) .dropped ++ rest) =
      (.error (dropCause request), List.replicate (n + 1) request) := by
  induction n with
  | zero =>
    rw [List.replicate_succ, List.replicate_zero, List.cons_append, List.nil_append, retry,
      run_sendOnce_of_dropped h]
    rfl
  | succ n ih =>
    rw [List.replicate_succ, List.cons_append, run_retry_succ_of_dropped h, ih]
    rfl

end Client

end HearingSync
