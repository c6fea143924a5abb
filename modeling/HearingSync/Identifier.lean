import HearingSync.Text.Blank
/-!
Identifiers from other systems: case references, hearing request ids, ePIMS venue codes and
judicial personal codes. An identifier is a text with no white space at either end, and it is not
empty, so two identifiers are equal exactly when their texts are. Main statement: `ofText?` refuses
the blank texts and no other.
-/

namespace HearingSync

inductive IdentifierKind where
  | case
  | hearing
  | venue
  | personal
  deriving DecidableEq, Repr

def IdentifierKind.label : IdentifierKind → String
  | .case => "case id"
  | .hearing => "hearing id"
  | .venue => "epims id"
  | .personal => "personal code"

def IdentifierKind.blankMessage (k : IdentifierKind) : String :=
  k.label ++ " must not be blank"

structure Identifier (k : IdentifierKind) where
  text : String
  trimmed : Text.trim text = text
  nonempty : text ≠ ""
  deriving DecidableEq

abbrev CaseId := Identifier .case

/-- Hearing request id, unique within a case's hearing list. -/
abbrev HearingId := Identifier .hearing

abbrev VenueCode := Identifier .venue

abbrev PersonalCode := Identifier .personal

namespace Identifier

variable {k : IdentifierKind}

/-- The identifier a text stands for, white space around it aside; `none` for a blank text. -/
def ofText? (s : String) : Option (Identifier k) :=
  let t := Text.trim s
  if h : t = "" then none else some ⟨t, Text.trim_idem s, h⟩

@[ext] theorem ext {a b : Identifier k} (h : a.text = b.text) : a = b := by
  cases a; cases b; cases h; rfl

@[simp] theorem ofText?_text (a : Identifier k) : ofText? a.text = some a := by
  simp [ofText?, a.trimmed, a.nonempty]

theorem text_of_ofText? {s : String} {a : Identifier k} (h : ofText? s = some a) :
    a.text = Text.trim s := by
  simp only [ofText?] at h
  split at h
  · cases h
  · injection h with h; exact (congrArg text h).symm

theorem ofText?_eq_none_iff {s : String} :
    (ofText? s : Option (Identifier k)) = none ↔ Text.trim s = "" := by
  simp only [ofText?]
  split <;> simp_all

/-- White space around a text makes no difference to what it stands for. -/
theorem ofText?_congr {s t : String} (h : Text.trim s = Text.trim t) :
    (ofText? s : Option (Identifier k)) = ofText? t := by
  simp only [ofText?, h]

theorem ofText?_eq_some_iff {s : String} {a : Identifier k} :
    ofText? s = some a ↔ Text.trim s = a.text := by
  constructor
  · intro h
    exact (text_of_ofText? h).symm
  · intro h
    rw [← ofText?_text a, ← h]
    exact ofText?_congr (Text.trim_idem s).symm

end Identifier

end HearingSync
