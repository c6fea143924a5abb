import HearingSync.Text.Composition
import HearingSync.Url.Domain.Direction
import HearingSync.Url.Domain.Joining
import HearingSync.Url.Domain.Mapping
import HearingSync.Url.Punycode
/-!
Domain names. A name in any script becomes one in ASCII: its characters are mapped, the text is
brought to normal form, and each label that is not ASCII then is written in digits behind a mark.
-/

namespace HearingSync.Url.Domain

structure Label where
  written : List Char
  chars : List Char
  deriving DecidableEq, Repr

def isAscii (cs : List Char) : Bool := cs.all (·.toNat < 0x80)

def digitsMark : List Char := ['x', 'n', '-', '-']

def longestDigits : Nat := 2000

def longestWide : Nat := 1000

/-- Whether a label beyond ASCII may be used: it starts with no mark, and its joiners join. -/
def isWellFormed (cs : List Char) : Bool :=
  !cs.head?.any Text.isMark && joinersAllowed [] cs

/-- The label for digits. They must stand for a label that mapping leaves as it is. -/
def Label.ofDigits? (digits : List Char) : Option Label :=
  if digits.isEmpty || digits.getLast? = some '-' || longestDigits < digits.length ||
      !isAscii digits then
    none
  else
    match Punycode.decode? digits with
    | none => none
    | some chars =>
      if chars.all isKept && Text.composed chars == chars && isWellFormed chars then
        some { written := digitsMark ++ digits, chars }
      else none

def Label.ofChars? (cs : List Char) : Option Label :=
  if digitsMark.isPrefixOf cs then Label.ofDigits? (cs.drop digitsMark.length)
  else if isAscii cs then some { written := cs, chars := cs }
  else if isWellFormed cs && cs.length ≤ longestWide then
    some { written := digitsMark ++ Punycode.encode cs, chars := cs }
  else none

def normalized? (cs : List Char) : Option (List Char) :=
  if isAscii cs then some (cs.map Char.toLower)
  else (cs.mapM mapped?).map fun parts => Text.composed parts.flatten

/-- Where one label turns the direction of writing, all labels keep one. -/
def directionsAgree (labels : List Label) : Bool :=
  !labels.any (fun l => l.chars.any turns) || labels.all fun l => keepsDirection l.chars

def toAscii? (cs : List Char) : Option (List Char) := do
  let name ← normalized? cs
  let labels ← (Text.splitOn (· == '.') name).mapM Label.ofChars?
  if directionsAgree labels then return List.intercalate ['.'] (labels.map Label.written) else none

end HearingSync.Url.Domain
