import HearingSync.Json.Value
import HearingSync.Json.Token
/-!
Reading a JSON text. The tokens are taken one after another; what is open at that point lies on a
stack of frames. At a token that does not belong where it stands, every open array and object is
closed around a mark.
-/

namespace HearingSync.Json

/-- An open array or object: its parts so far, the latest first, and for an object the key whose
value comes next (`none` in it where the key cannot be used). -/
inductive Frame where
  | array (done : List Json)
  | object (done : List (String × Json)) (key : Option (Option String))

inductive Expecting where
  | value
  | firstItem
  | firstKey
  | key
  | colon
  | next
  deriving DecidableEq

structure Reading where
  frames : List Frame
  expecting : Expecting

/-- A document with what follows it: `trailing` where more than white space does. -/
structure Document where
  value : Json
  trailing : Bool

inductive Progress where
  | reading (r : Reading)
  | done (d : Document)

def addMember (key : Option (Option String)) (value : Json) (done : List (String × Json)) :
    List (String × Json) :=
  match key with
  | some (some k) => (k, value) :: done
  | some none =>
    ("", .fault (if value.isWhole then .loneSurrogateKey else .cutShort)) :: done
  | none => ("", value) :: done

def Reading.put (frames : List Frame) (value : Json) : Progress :=
  match frames with
  | [] => .done { value, trailing := false }
  | .array done :: rest => .reading { frames := .array (value :: done) :: rest, expecting := .next }
  | .object done key :: rest =>
    .reading { frames := .object (addMember key value done) none :: rest, expecting := .next }

def closeAll : List Frame → Json → Json
  | [], value => value
  | .array done :: rest, value => closeAll rest (.array (value :: done).reverse)
  | .object done key :: rest, value =>
    closeAll rest (.object (addMember key value done).reverse)

def Reading.cut (frames : List Frame) : Progress :=
  .done { value := closeAll frames (.fault .cutShort), trailing := false }

def Reading.step (r : Reading) (t : Token) : Progress :=
  match r.expecting, t, r.frames with
  | .firstItem, .closeArray, .array done :: rest => Reading.put rest (.array done.reverse)
  | .value, t, frames | .firstItem, t, frames =>
    match t with
    | .null => Reading.put frames .null
    | .bool b => Reading.put frames (.bool b)
    | .number literal => Reading.put frames (.number literal)
    | .string (some s) => Reading.put frames (.string s)
    | .string none => Reading.put frames (.fault .loneSurrogate)
    | .openArray => .reading { frames := .array [] :: frames, expecting := .firstItem }
    | .openObject => .reading { frames := .object [] none :: frames, expecting := .firstKey }
    | _ => Reading.cut frames
  | .firstKey, .closeObject, .object done _ :: rest => Reading.put rest (.object done.reverse)
  | .firstKey, .string s, .object done _ :: rest
  | .key, .string s, .object done _ :: rest =>
    .reading { frames := .object done (some s) :: rest, expecting := .colon }
  | .colon, .colon, frames => .reading { frames, expecting := .value }
  | .next, .comma, .array done :: rest =>
    .reading { frames := .array done :: rest, expecting := .value }
  | .next, .comma, .object done key :: rest =>
    .reading { frames := .object done key :: rest, expecting := .key }
  | .next, .closeArray, .array done :: rest => Reading.put rest (.array done.reverse)
  | .next, .closeObject, .object done _ :: rest => Reading.put rest (.object done.reverse)
  | _, _, frames => Reading.cut frames

def Progress.step : Progress → Token → Progress
  | .reading r, t => r.step t
  | .done d, _ => .done { d with trailing := true }

def Progress.finish : Progress → Document
  | .reading r => { value := closeAll r.frames (.fault .cutShort), trailing := false }
  | .done d => d

def readDocument (s : String) : Document :=
  ((tokens s).foldl Progress.step (.reading { frames := [], expecting := .value })).finish

def read? (s : String) : Option Json :=
  let d := readDocument s
  if d.trailing || !d.value.isWhole then none else some d.value

end HearingSync.Json
