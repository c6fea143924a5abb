import HearingSync.Json.Reader
import HearingSync.Identifier
/-!
Typed reading of JSON documents. A record is an object with its fields in any order, or an array
with its fields in theirs. Members that name no field are passed over, a field named twice is an
error, and of several errors the first in the document counts.
-/

namespace HearingSync

inductive DecodeError where
  | malformed
  | blankIdentifier (k : IdentifierKind)
  deriving DecidableEq, Repr

def DecodeError.message? : DecodeError → Option String
  | .malformed => none
  | .blankIdentifier k => some k.blankMessage

abbrev Decoder (α : Type) := Json → Except DecodeError α

namespace Json

def decodeString : Decoder String
  | .string s => .ok s
  | _ => .error .malformed

def decodeBool : Decoder Bool
  | .bool b => .ok b
  | _ => .error .malformed

/-- Digits alone are a whole number; a sign, a point or an exponent is not. -/
def digitsValue? (s : String) : Option Nat :=
  let cs := s.toList
  if cs.isEmpty || !cs.all Char.isDigit then none
  else some (cs.foldl (fun n c => n * 10 + (c.toNat - 0x30)) 0)

def decodeNat64 : Decoder Nat
  | .number literal =>
    match digitsValue? literal with
    | some n => if n < 18446744073709551616 then .ok n else .error .malformed
    | none => .error .malformed
  | _ => .error .malformed

def decodeOption {α : Type} (decode : Decoder α) : Decoder (Option α)
  | .null => .ok none
  | j => (decode j).map some

def decodeItems {α : Type} (decode : Decoder α) : List Json → Except DecodeError (List α)
  | [] => .ok []
  | j :: js => do
    let a ← decode j
    let as ← decodeItems decode js
    return a :: as

def decodeList {α : Type} (decode : Decoder α) : Decoder (List α)
  | .array items => decodeItems decode items
  | _ => .error .malformed

def decodeIdentifier (k : IdentifierKind) : Decoder (Identifier k)
  | .string s =>
    match Identifier.ofText? s with
    | some a => .ok a
    | none => .error (.blankIdentifier k)
  | _ => .error .malformed

/-- A word of a vocabulary: a string, or an object with the word as its one key and null beside
it. -/
def decodeWord {α : Type} (ofWord? : String → Option α) : Decoder α
  | .string s => (ofWord? s).elim (.error .malformed) .ok
  | .object [(s, .null)] => (ofWord? s).elim (.error .malformed) .ok
  | _ => .error .malformed

def check {α : Type} (decode : Decoder α) : Decoder Unit :=
  fun j => (decode j).map fun _ => ()

/-- Decodes a text that holds one JSON value; what follows the value is looked at last. -/
def decodeText {α : Type} (decode : Decoder α) (s : String) : Except DecodeError α := do
  let d := readDocument s
  let a ← decode d.value
  if d.trailing then .error .malformed else return a

end Json

/-- The fields of a record type with the way from their values to the record. `fields` holds each
field's name and check, in order; the array form has at least `minimum` of them. -/
structure Record (α : Type) where
  fields : List (String × Decoder Unit)
  minimum : Nat
  build : (String → Option Json) → Except DecodeError α

namespace Record

variable {α β : Type}

def const (a : α) : Record α :=
  { fields := [], minimum := 0, build := fun _ => .ok a }

def app (f : Record (α → β)) (x : Record α) : Record β where
  fields := f.fields ++ x.fields
  minimum := if x.minimum = 0 then f.minimum else f.fields.length + x.minimum
  build := fun look => do
    let g ← f.build look
    let a ← x.build look
    return g a

def required (name : String) (decode : Decoder α) : Record α where
  fields := [(name, Json.check decode)]
  minimum := 1
  build := fun look =>
    match look name with
    | some j => decode j
    | none => .error .malformed

def defaulted (name : String) (decode : Decoder α) (default : α) : Record α where
  fields := [(name, Json.check decode)]
  minimum := 0
  build := fun look =>
    match look name with
    | some j => decode j
    | none => .ok default

/-- A field that may be null or absent. -/
def optional (name : String) (decode : Decoder α) : Record (Option α) :=
  defaulted name (Json.decodeOption decode) none

/-- A field that may be null, or absent from the object form alone. -/
def nullable (name : String) (decode : Decoder α) : Record (Option α) :=
  { optional name decode with minimum := 1 }

def fieldCheck? (fields : List (String × Decoder Unit)) (name : String) : Option (Decoder Unit) :=
  (fields.find? (·.1 == name)).map (·.2)

def checkMembers (fields : List (String × Decoder Unit)) :
    List String → List (String × Json) → Except DecodeError Unit
  | _, [] => .ok ()
  | _, (_, .fault .loneSurrogateKey) :: _ => .error .malformed
  | seen, (key, j) :: rest =>
    match fieldCheck? fields key with
    | some check =>
      if seen.contains key then .error .malformed
      else do
        check j
        checkMembers fields (key :: seen) rest
    | none => if j.isWhole then checkMembers fields seen rest else .error .malformed

def checkItems (minimum : Nat) : List (String × Decoder Unit) → List Json →
    Except DecodeError Unit
  | _, [] => if minimum = 0 then .ok () else .error .malformed
  | [], _ :: _ => .error .malformed
  | (_, check) :: fields, j :: rest => do
    check j
    checkItems (minimum - 1) fields rest

def lookup (members : List (String × Json)) (name : String) : Option Json :=
  (members.find? (·.1 == name)).map (·.2)

def decode (r : Record α) : Decoder α
  | .object members => do
    checkMembers r.fields [] members
    r.build (lookup members)
  | .array items => do
    checkItems r.minimum r.fields items
    r.build (lookup ((r.fields.map (·.1)).zip items))
  | _ => .error .malformed

end Record

end HearingSync
