/-!
What is noted while messages are handled: log lines and the end of each message. The metrics are
counted from the notes.
-/

namespace HearingSync

inductive LogLevel where
  | info
  | warn
  deriving DecidableEq, Repr

def LogLevel.word : LogLevel → String
  | .info => "INFO"
  | .warn => "WARN"

inductive Note where
  | log (level : LogLevel) (text : String)
  | handled (outcome : String)
  | failed (kind : String)
  deriving DecidableEq, Repr

namespace Note

def line? : Note → Option String
  | .log level text => some (level.word ++ " " ++ text)
  | _ => none

def samples : Note → List String
  | .log _ _ => []
  | .handled outcome => ofOutcome outcome
  | .failed kind =>
    ofOutcome "failed" ++ ["hearing_event_failures_total\x7bkind=" ++ kind ++ "\x7d"]
where
  ofOutcome (outcome : String) : List String :=
    ["hearing_events_total\x7boutcome=" ++ outcome ++ "\x7d",
     "hearing_event_duration_seconds\x7boutcome=" ++ outcome ++ "\x7d"]

end Note

namespace Metrics

def descriptions : List (String × String) :=
  [("hearing_events_total", "Hearing events processed, by outcome"),
   ("hearing_event_failures_total", "Hearing events that failed, by error kind"),
   ("hearing_event_duration_seconds", "Hearing event processing time in seconds")]

def add (name : String) : List (String × Nat) → List (String × Nat)
  | [] => [(name, 1)]
  | (n, count) :: rest =>
    if n == name then (n, count + 1) :: rest else (n, count) :: add name rest

def totals (notes : List Note) : List (String × Nat) :=
  (notes.flatMap Note.samples).foldl (fun counts name => add name counts) []

end Metrics

end HearingSync
