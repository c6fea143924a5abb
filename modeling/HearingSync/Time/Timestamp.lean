import HearingSync.Time.WallClock
import HearingSync.Text.Quoted
import HearingSync.Text.Blank
/-!
Timestamps in texts. A notation is a list of items that are read one after another; the timestamps
of the listing service are tried in the notation with an offset and then in the one without, which
is universal time.
-/

namespace HearingSync

inductive TimestampFault where
  | outOfRange
  | invalidCharacter
  | prematureEnd
  | trailingInput
  deriving DecidableEq, Repr

def TimestampFault.message : TimestampFault → String
  | .outOfRange => "input is out of range"
  | .invalidCharacter => "input contains invalid characters"
  | .prematureEnd => "premature end of input"
  | .trailingInput => "trailing input"

structure TimestampError where
  text : String
  fault : TimestampFault
  deriving DecidableEq, Repr

def TimestampError.message (e : TimestampError) : String :=
  "invalid timestamp " ++ Text.quote e.text ++ ": " ++ e.fault.message

namespace Timestamp

inductive Part where
  | year
  | month
  | day
  | hour
  | minute
  | second
  deriving DecidableEq, Repr

def Part.width : Part → Nat
  | .year => 4
  | _ => 2

/-- `exact` is a part with all its digits; `loose` one that white space may precede and that may
have fewer, the year also with a sign and then with any number of them. -/
inductive Item where
  | exact (p : Part)
  | loose (p : Part)
  | mark (c : Char)
  | separator
  | blanks
  | fraction
  deriving DecidableEq, Repr

structure Parts where
  year : Int := 0
  month : Nat := 1
  day : Nat := 1
  hour : Nat := 0
  minute : Nat := 0
  second : Nat := 0
  nano : Nat := 0
  deriving DecidableEq, Repr

def digitsValue (ds : List Char) : Nat :=
  ds.foldl (fun n c => n * 10 + (c.toNat - 0x30)) 0

/-- Between `least` and `most` digits; without a `most` there is no limit but the value's. -/
def scanDigits (least : Nat) (most : Option Nat) (cs : List Char) :
    Except TimestampFault (Nat × List Char) :=
  let all := cs.takeWhile Char.isDigit
  let ds := match most with
    | some n => all.take n
    | none => all
  if ds.length < least then
    .error (if cs.length < least then .prematureEnd else .invalidCharacter)
  else if 9223372036854775808 ≤ digitsValue ds then .error .outOfRange
  else .ok (digitsValue ds, cs.drop ds.length)

/-- Sets a part that has a range of its own; a second 60 is a leap second. -/
def Parts.set (f : Parts) (p : Part) (v : Int) : Except TimestampFault Parts :=
  let n := v.toNat
  match p with
  | .year =>
    if -2147483648 ≤ v ∧ v ≤ 2147483647 then .ok { f with year := v } else .error .outOfRange
  | .month => if 1 ≤ v ∧ v ≤ 12 then .ok { f with month := n } else .error .outOfRange
  | .day => if 1 ≤ v ∧ v ≤ 31 then .ok { f with day := n } else .error .outOfRange
  | .hour => if 0 ≤ v ∧ v ≤ 23 then .ok { f with hour := n } else .error .outOfRange
  | .minute => if 0 ≤ v ∧ v ≤ 59 then .ok { f with minute := n } else .error .outOfRange
  | .second => if 0 ≤ v ∧ v ≤ 60 then .ok { f with second := n } else .error .outOfRange

/-- Nanoseconds: nine digits, filled up with zeros. Digits after the ninth are passed over. -/
def scanFraction (cs : List Char) :
    Except TimestampFault (Nat × List Char) := do
  let (_, rest) ← scanDigits 1 (some 9) cs
  let ds := cs.take (cs.length - rest.length)
  return (digitsValue (ds ++ List.replicate (9 - ds.length) '0'), rest.dropWhile Char.isDigit)

def scanLoose (p : Part) (cs : List Char) :
    Except TimestampFault (Int × List Char) := do
  let cs := Text.dropBlanks cs
  match p, cs with
  | .year, '-' :: rest =>
    let (n, rest) ← scanDigits 1 none rest
    return (-(n : Int), rest)
  | .year, '+' :: rest =>
    let (n, rest) ← scanDigits 1 none rest
    return ((n : Int), rest)
  | p, cs =>
    let (n, rest) ← scanDigits 1 (some p.width) cs
    return ((n : Int), rest)

def Item.scan (item : Item) (f : Parts) (cs : List Char) :
    Except TimestampFault (Parts × List Char) :=
  match item with
  | .exact p => do
    let (n, rest) ← scanDigits p.width (some p.width) cs
    return (← f.set p n, rest)
  | .loose p => do
    let (v, rest) ← scanLoose p cs
    return (← f.set p v, rest)
  | .mark c =>
    match cs with
    | [] => .error .prematureEnd
    | d :: rest => if d == c then .ok (f, rest) else .error .invalidCharacter
  | .separator =>
    match cs with
    | [] => .error .prematureEnd
    | d :: rest =>
      if d == 'T' || d == 't' || d == ' ' then .ok (f, rest) else .error .invalidCharacter
  | .blanks => .ok (f, Text.dropBlanks cs)
  | .fraction =>
    match cs with
    | '.' :: rest => do
      let (n, rest) ← scanFraction rest
      return ({ f with nano := n }, rest)
    | cs => .ok (f, cs)

def scanItems : List Item → Parts → List Char →
    Except TimestampFault (Parts × List Char)
  | [], f, cs => .ok (f, cs)
  | item :: items, f, cs => do
    let (f, cs) ← item.scan f cs
    scanItems items f cs

def Parts.date (f : Parts) : Except TimestampFault Date :=
  let c : CivilDate := { year := f.year, month := f.month, day := f.day }
  if c.isValid then .ok c.toDate else .error .outOfRange

def Parts.wallClock (f : Parts) : Except TimestampFault WallClock := do
  let date ← f.date
  let leap := if f.second = 60 then 1 else 0
  let second := f.hour * 3600 + f.minute * 60 + f.second - leap
  let nano := f.nano + leap * 1000000000
  if h : second < 86400 ∧ nano < 2000000000 then
    return { date, second, nano, second_lt := h.1, nano_lt := h.2 }
  else .error .outOfRange

def readAll {α : Type} (items : List Item) (finish : Parts → Except TimestampFault α)
    (cs : List Char) : Except TimestampFault α := do
  let (f, rest) ← scanItems items {} cs
  match rest with
  | [] => finish f
  | _ => .error .trailingInput

def zonelessItems : List Item :=
  [.loose .year, .mark '-', .loose .month, .mark '-', .loose .day, .mark 'T',
   .loose .hour, .mark ':', .loose .minute, .mark ':', .loose .second, .fraction]

def strictItems : List Item :=
  [.exact .year, .mark '-', .exact .month, .mark '-', .exact .day, .separator,
   .exact .hour, .mark ':', .exact .minute, .mark ':', .exact .second, .fraction]

def dateItems : List Item :=
  [.loose .year, .blanks, .mark '-', .loose .month, .blanks, .mark '-', .loose .day]

def timeItems : List Item :=
  [.loose .hour, .blanks, .mark ':', .loose .minute, .blanks, .mark ':', .loose .second,
   .fraction, .blanks]

/-- How the hours and minutes of an offset are set apart: by one colon, or by any colons and white
space. -/
inductive OffsetStyle where
  | colon
  | spaced

def OffsetStyle.skip (style : OffsetStyle) (cs : List Char) : Option (List Char) :=
  match style with
  | .colon =>
    match cs with
    | ':' :: rest => some rest
    | _ => none
  | .spaced => some (cs.dropWhile fun c => c == ':' || Text.isBlank c)

def twoDigits (cs : List Char) : Option (Nat × List Char) :=
  match cs with
  | a :: b :: rest => if a.isDigit && b.isDigit then some (digitsValue [a, b], rest) else none
  | _ => none

/-- The sign of an offset; the minus may be the hyphen or the minus sign proper. -/
def offsetSign (cs : List Char) : Option (Int × List Char) :=
  match cs with
  | '+' :: rest => some (1, rest)
  | '-' :: rest => some (-1, rest)
  | '\u2212' :: rest => some (-1, rest)
  | _ => none

def scanOffset (style : OffsetStyle) (cs : List Char) : Option (Int × List Char) :=
  match cs with
  | 'Z' :: rest => some (0, rest)
  | 'z' :: rest => some (0, rest)
  | cs => do
    let (sign, cs) ← offsetSign cs
    let (hours, cs) ← twoDigits cs
    let cs ← style.skip cs
    let (minutes, cs) ← twoDigits cs
    if minutes < 60 then return (sign * (hours * 3600 + minutes * 60), cs) else none

def atOffset (w : WallClock) (offset : Int) : Option Instant :=
  if -86400 < offset ∧ offset < 86400 then
    let utc := w.addSeconds (-offset)
    if utc.date.isRepresentable then some ⟨utc⟩ else none
  else none

def okToOption {ε α : Type} : Except ε α → Option α
  | .ok a => some a
  | .error _ => none

/-- The notation with an offset: all digits there, nothing before, between or after. -/
def readStrict? (cs : List Char) : Option Instant := do
  let (f, rest) ← okToOption (scanItems strictItems {} cs)
  let (offset, rest) ← scanOffset .colon rest
  let w ← okToOption f.wallClock
  if rest.isEmpty then atOffset w offset else none

/-- A timestamp of the listing service; without an offset it is universal time. -/
def readInstant (s : String) : Except TimestampError Instant :=
  match readStrict? s.toList with
  | some t => .ok t
  | none =>
    match readAll zonelessItems Parts.wallClock s.toList with
    | .ok w => .ok ⟨w⟩
    | .error fault => .error { text := s, fault }

/-- A stored instant: white space may stand between the parts, and `UTC` for the offset. -/
def readStoredInstant? (s : String) : Option Instant := do
  let (f, rest) ← okToOption (scanItems dateItems {} s.toList)
  let (f, rest) ← okToOption (scanItems (.separator :: timeItems) f rest)
  let (offset, rest) ← match rest with
    | u :: t :: c :: after =>
      if u.toUpper == 'U' && t.toUpper == 'T' && c.toUpper == 'C' then some (0, after)
      else scanOffset .spaced rest
    | _ => scanOffset .spaced rest
  let w ← okToOption f.wallClock
  if (Text.dropBlanks rest).isEmpty then atOffset w offset else none

def readStoredWallClock? (s : String) : Option WallClock :=
  okToOption (readAll (dateItems ++ [.blanks, .mark 'T'] ++ timeItems) Parts.wallClock s.toList)

def readStoredDate? (s : String) : Option Date :=
  okToOption (readAll (dateItems ++ [.blanks]) Parts.date s.toList)

end Timestamp

end HearingSync
