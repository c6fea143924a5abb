import HearingSync.Json.Value
import HearingSync.Settings
import HearingSync.Text.Blank
import HearingSync.Text.Printable
import HearingSync.Text.Split
/-!
What a run logs as errors, how a record reads, and the directives of the environment that say
whether errors are shown at all.
-/

namespace HearingSync.CommandLine

structure LogRecord where
  message : String
  fields : List (String × String) := []
  deriving DecidableEq, Repr

def codeDigits (c : Char) : List Char :=
  (if c.toNat < 0x10 then ['0'] else []) ++ Nat.toDigits 16 c.toNat

def terminalSafe (c : Char) : List Char :=
  if [0x07, 0x08, 0x0C, 0x1B, 0x7F].contains c.toNat then ['\\', 'x'] ++ codeDigits c
  else if 0x80 ≤ c.toNat ∧ c.toNat < 0xA0 then ['\\', 'u', '\x7b'] ++ codeDigits c ++ ['\x7d']
  else [c]

def LogRecord.text (r : LogRecord) : String :=
  let message := String.ofList (r.message.toList.flatMap terminalSafe)
  " ".intercalate (message :: r.fields.map fun (name, value) => name ++ "=" ++ value)

inductive LogLevel where
  | off
  | error
  | warn
  | info
  | debug
  | trace
  deriving DecidableEq, Repr

namespace LogLevel

def all : List LogLevel := [off, error, warn, info, debug, trace]

def word : LogLevel → String
  | off => "off"
  | error => "error"
  | warn => "warn"
  | info => "info"
  | debug => "debug"
  | trace => "trace"

/-- A level is named or numbered, from 0 for `off`; a number may have a plus sign. -/
def ofText? (s : String) : Option LogLevel :=
  let cs := s.toList
  let digits := if cs.head? = some '+' then cs.tail else cs
  match Json.digitsValue? (String.ofList digits) with
  | some n => all[n]?
  | none => all.find? fun level => level.word == Text.asciiLower s

end LogLevel

/-- Which records a directive is for, and the least serious level that it shows. Each field is given
with whether a value is asked of it. -/
structure LogDirective where
  level : LogLevel := .trace
  target : Option String := none
  span : Option String := none
  fields : List (String × Bool) := []
  deriving DecidableEq, Repr

namespace LogDirective

inductive Place where
  | outset
  | word (start : Nat)
  | span (start : Nat)
  | field (start : Nat)
  | fields
  | target
  | level (start : Nat)
  deriving DecidableEq, Repr

def startsWord (c : Char) : Bool :=
  c.isAlphanum || ['-', ':', '_'].contains c || (0x80 ≤ c.toNat && Text.isPrintable c)

/-- A level alone, or else a target for which everything is shown. -/
def ofWord (word : String) : LogDirective :=
  match LogLevel.ofText? word with
  | some level => { level }
  | none => { target := some word }

def fieldOfText? (s : String) : Option (String × Bool) :=
  if s.isEmpty then none
  else some (String.ofList (s.toList.takeWhile (· != '=')), s.contains '=')

def step (part : Nat → Nat → String) (d : LogDirective) (place : Place) (i : Nat) (c : Char) :
    Option (LogDirective × Place) :=
  match place with
  | .outset =>
    if c == '[' then some (d, .span (i + 1))
    else if startsWord c then some (d, .word i)
    else none
  | .word start =>
    if c == '=' then some ({ d with target := some (part start i) }, .level (i + 1))
    else if c == '[' then some ({ d with target := some (part start i) }, .span (i + 1))
    else some (d, place)
  | .span start =>
    let span := if start = i then none else some (part start i)
    if c == ']' then some ({ d with span }, .target)
    else if c == '\x7b' then some ({ d with span }, .field (i + 1))
    else some (d, place)
  | .field start =>
    if c == '\x7d' then
      (fieldOfText? (part start i)).map fun f => ({ d with fields := d.fields ++ [f] }, .fields)
    else some (d, place)
  | .fields => if c == ']' then some (d, .target) else none
  | .target => if c == '=' then some (d, .level (i + 1)) else none
  | .level _ => some (d, place)

/-- Reads one directive. Blanks around it are passed over when it is taken apart, but places are
counted from the start of the text. -/
def ofText? (s : String) : Option LogDirective := do
  let cs := s.toList
  let part (start stop : Nat) : String := String.ofList ((cs.take stop).drop start)
  let start : LogDirective × Place := ({}, .outset)
  let (d, place) ←
    (Text.trimChars cs).zipIdx.foldlM (fun (d, place) (c, i) => step part d place i c) start
  match place with
  | .word start => return ofWord (part start cs.length)
  | .level start =>
    let word := part start cs.length
    if word.isEmpty then return d else return { d with level := ← LogLevel.ofText? word }
  | .target => return d
  | _ => none

def listOfText? (s : String) : Option (List LogDirective) :=
  if s.isEmpty then some []
  else (Text.splitOn (· == ',') s.toList).mapM fun part => ofText? (String.ofList part)

def errorTarget : String := "hearings"

/-- Whether the directive decides about errors, which have a message and are logged outside spans.
-/
def isForErrors (d : LogDirective) : Bool :=
  d.span.isNone && d.fields.all (fun f => f.1 == "message" && !f.2) &&
    d.target.all fun target => errorTarget.startsWith target

/-- The longer its target the more a directive says, and then the more fields it has. -/
def saysMore (d e : LogDirective) : Bool :=
  let reach (d : LogDirective) : Nat := d.target.elim 0 fun target => target.length + 1
  reach e < reach d || (reach e = reach d && e.fields.length ≤ d.fields.length)

/-- The directive that says most decides, and the later one of two that say the same. -/
def showsErrors (ds : List LogDirective) : Bool :=
  let best : Option LogDirective :=
    (ds.filter isForErrors).foldl (fun best d => if best.all d.saysMore then some d else best) none
  best.any fun d => d.level != .off

end LogDirective

def showsErrors (env : Environment) : Bool :=
  ((env "RUST_LOG").bind LogDirective.listOfText?).all LogDirective.showsErrors

end HearingSync.CommandLine
