import HearingSync.Text.Combining
/-!
The two characters without a width that join letters or keep them apart. They may stand in a name
only where they change how it is written.
-/

namespace HearingSync.Url.Domain

/-- The type Left_Joining. -/
def leftLines : List String :=
  ["a872 0 625b 0 a 0 229 0 2cb 0"]

def rightLines : List String :=
  ["622 3 2 0 2 0 6 3 16 0 29 2 2 2 11 11 27 0 3 8 2 0 2 0 3 1 2 0 19 1 21 0 5 4 5 0 a 0 2 0 2 0",
   "3 0 1e 0 c 2 10 1 5 0 2 1 4 1 c7 0 6 1 2 0 b 0 2 2 f 0 2 1 6 12 c 0 1c 2 2 0 3 1 7 0 1020c 0",
   "2 0 2 1 4 4 b 0 4 0 3 0 b 0 92 0 2 2 4 0 3 0 2 1 2 0 18 3 176 0 1a0 0 71 0 21 0 20 1 3f 2 3 1",
   "3 0 5 1 6 0"]

def dualLines : List String :=
  ["620 0 6 0 2 0 2 4 5 c 2 6 2 1 24 1 9 f 13 25 2 1 a 0 2 0 2 1 29 2 3 0 13 2 6 3 2 8 2 0 2 0 2 1",
   "20 a 4 e 3 3 2 0 3 2 3 5 4b 20 57 4 3 0 2 9 2 0 b 0 2 3 3 0 1e 0 3 4 2 0 11 9 6 1 3 5 2 e",
   "f3f 0 19 58 f 21 2 0 8f96 31 624f 4 f 3 2 4 2 2 b 3 92 0 2 0 4 2 2 1 2 0 3 0 1d 1 153 20 2 0",
   "1a0 1 2 1 69 2 2 10 d 2 1d 3 3 b 2f 0 2 1 5 0 3 1 2 1 2 0 3 0 6 0 d936 43"]

def leftJoiningRanges : List (Nat × Nat) := Text.Table.ranges leftLines

def rightJoiningRanges : List (Nat × Nat) := Text.Table.ranges rightLines

def dualJoiningRanges : List (Nat × Nat) := Text.Table.ranges dualLines

def nonJoiner : Char := '\u200c'

def joiner : Char := '\u200d'

def isTransparent (c : Char) : Bool := Text.isNonspacing c || c.toNat = 0x1E94B

def joinsNext (c : Char) : Bool :=
  Text.Table.contains leftJoiningRanges c || Text.Table.contains dualJoiningRanges c

def joinsPrevious (c : Char) : Bool :=
  Text.Table.contains rightJoiningRanges c || Text.Table.contains dualJoiningRanges c

/-- The class of signs that take a consonant's vowel away. -/
def viramaClass : Nat := 9

/-- Whether every joiner and non-joiner is allowed; `before` is what precedes, the nearest first.
A virama before it allows either, and two letters that would join allow a non-joiner. -/
def joinersAllowed (before : List Char) : List Char → Bool
  | [] => true
  | c :: rest =>
    let afterVirama := before.head?.any fun b => Text.combiningClass b = viramaClass
    let parts :=
      (before.dropWhile isTransparent).head?.any joinsNext &&
        (rest.dropWhile isTransparent).head?.any joinsPrevious
    let allowed := (c != joiner && c != nonJoiner) || afterVirama || (c == nonJoiner && parts)
    allowed && joinersAllowed (c :: before) rest

end HearingSync.Url.Domain
