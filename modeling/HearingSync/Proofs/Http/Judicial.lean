import HearingSync.Http.Judicial
import HearingSync.Proofs.Http.Sending
/-!
What is made of the answer of judicial reference data. Main statement: a search sends one request,
and the first user with the code is taken from what comes of it.
-/

namespace HearingSync.Client

def judgesPath : String := "refdata/judicial/users"

def judgesEndpoint : String := "POST /" ++ judgesPath

def judgesBody (code : PersonalCode) : Json :=
  .object [("personal_code", .array [.string code.text])]

def judgedOf (code : PersonalCode) :
    Except String Response → Except ClientError (Option JudicialUser)
  | .error cause => .error (.transport judgesEndpoint cause)
  | .ok r =>
    if r.status = 404 then .ok none
    else (readBody judgesEndpoint (Json.decodeList JudicialRecord.record.decode) r).map
      (JudicialRecord.find? · code)

variable {c : Client} {code : PersonalCode}

theorem run_judge (h : c.hasRuntime = true) : (c.judge? code).run =
    (do return judgedOf code (← c.send .post judgesPath (some (judgesBody code)))) := by
  unfold judge?
  have hruntime : ¬(!c.hasRuntime) = true := by simp [h]
  rw [if_neg hruntime]
  refine Exchange.run_lift_bind fun sent => ?_
  cases sent with
  | error cause => rfl
  | ok r =>
    change (if r.status = 404 then (pure none : ExceptT ClientError Exchange (Option JudicialUser))
      else do
        let records ← liftExcept
          (readBody judgesEndpoint (Json.decodeList JudicialRecord.record.decode) r)
        return JudicialRecord.find? records code).run = _
    rw [judgedOf]
    by_cases hmissing : r.status = 404
    · rw [if_pos hmissing, if_pos hmissing]
      rfl
    · rw [if_neg hmissing, if_neg hmissing]
      cases readBody judgesEndpoint (Json.decodeList JudicialRecord.record.decode) r <;> rfl

theorem run_judge_of_noRuntime (h : ¬c.hasRuntime = true) :
    (c.judge? code).run = .done (.error (.noRuntime judgesEndpoint)) := by
  unfold judge?
  have hno : (!c.hasRuntime) = true := by simpa using h
  rw [if_pos hno]
  rfl

end HearingSync.Client
