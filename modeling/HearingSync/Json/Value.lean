/-!
JSON documents as trees. Numbers keep their written form, objects keep the order of their members
and may repeat a key. A text that is no JSON is read as far as it goes, and the tree marks where
the reading stopped.
-/

namespace HearingSync

/-- What could not be read. `cutShort`: the text is no JSON from here on. `loneSurrogate`: a string
with half a surrogate pair, which may be passed over and not be used. `loneSurrogateKey`: the same
in the key of this member. -/
inductive Json.Fault where
  | cutShort
  | loneSurrogate
  | loneSurrogateKey
  deriving DecidableEq, Repr

inductive Json where
  | null
  | bool (b : Bool)
  | number (literal : String)
  | string (s : String)
  | array (items : List Json)
  | object (members : List (String × Json))
  | fault (f : Json.Fault)
  deriving Repr, Inhabited

namespace Json

/-- The member's value, the last one where the key is repeated. -/
def get? (j : Json) (key : String) : Option Json :=
  match j with
  | .object members => (members.reverse.find? (·.1 == key)).map (·.2)
  | _ => none

def ofNat (n : Nat) : Json := .number (toString n)

def ofOption {α : Type} (encode : α → Json) : Option α → Json
  | none => .null
  | some a => encode a

def ofList {α : Type} (encode : α → Json) (l : List α) : Json :=
  .array (l.map encode)

mutual

def isWhole : Json → Bool
  | .array items => areWhole items
  | .object members => membersAreWhole members
  | .fault .cutShort => false
  | _ => true

def areWhole : List Json → Bool
  | [] => true
  | j :: js => isWhole j && areWhole js

def membersAreWhole : List (String × Json) → Bool
  | [] => true
  | (_, j) :: ms => isWhole j && membersAreWhole ms

end

end Json

end HearingSync
