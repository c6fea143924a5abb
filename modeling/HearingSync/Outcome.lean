import HearingSync.Disposition
import HearingSync.Gate
/-!
How a message was handled.
-/

namespace HearingSync

inductive Outcome where
  | filtered (reason : Refusal)
  | notActionable (d : Disposition)
  | committed (d : Disposition) (event : WorkflowEvent) (version : Nat)
  | declined (d : Disposition)
  deriving DecidableEq

namespace Outcome

def label : Outcome → String
  | .filtered _ => "filtered"
  | .notActionable _ => "not_actionable"
  | .committed _ _ _ => "committed"
  | .declined _ => "declined"

def encode (o : Outcome) : Json :=
  .object (("outcome", .string o.label) :: match o with
    | .filtered reason => [("reason", reason.encode)]
    | .notActionable d => [("disposition", d.encode)]
    | .committed d event version =>
      [("disposition", d.encode), ("event_type", event.encode), ("version", .ofNat version)]
    | .declined d => [("disposition", d.encode)])

end Outcome

end HearingSync
