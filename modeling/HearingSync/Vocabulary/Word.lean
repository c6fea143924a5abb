import HearingSync.Json.Decode
import HearingSync.Text.Quoted
/-!
Vocabularies: finite types whose members are written as words.
-/

namespace HearingSync

structure UnknownWord where
  vocabulary : String
  text : String
  deriving DecidableEq, Repr

def UnknownWord.message (e : UnknownWord) : String :=
  "unknown " ++ e.vocabulary ++ ": " ++ Text.quote e.text

/-- A type with all its members in a list and a word for each. -/
class Vocabulary (α : Type) where
  all : List α
  word : α → String

namespace Vocabulary

variable {α : Type} [Vocabulary α]

def ofWord? (s : String) : Option α :=
  (all : List α).find? fun a => word a == s

def encode (a : α) : Json := .string (word a)

def decode : Decoder α := Json.decodeWord ofWord?

/-- Words outside the vocabulary stand for one of its members. -/
def decodeOr (other : α) : Decoder α :=
  Json.decodeWord fun s => some ((ofWord? s).getD other)

end Vocabulary

end HearingSync
