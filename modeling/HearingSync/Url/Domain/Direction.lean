import HearingSync.Text.Combining
/-!
Directions of the characters in domain names, and the rule for names in which some are written from
right to left: no label may be torn apart when it is shown.
-/

namespace HearingSync.Url.Domain

inductive Direction where
  | left
  | right
  | number
  | arabicNumber
  | neutral
  | attached
  deriving DecidableEq, Repr

namespace Direction

/-- The classes R and AL. -/
def rightLines : List String :=
  ["5be 0 2 0 3 0 3 0 a 1a 5 5 14 0 3 0 2 0 e 0 2 2d 23 2 2 3 5 5c 10 1 8 1 b 13 3 0 2 1d 1e 58",
   "c 0 f 2a a 1 5 0 4 17 5 0 a 0 4 0 8 e 2 18 6 0 2 a 6 1f 11 29 f2e9 10 2b1 0 98d 5 3 0 2 2b 2 1",
   "4 0 3 16 2 47 9 8 31 12 2 1 6 20 5 19 6 1a 27 37 5 13 3 2e 10 3 2 2 2 1c b 8 8 8 8 3f 21 24",
   "7 b a 35 b 15 3 1a 6 19 8 3 d 6 51 48 78 32 8 29 27 5 20 16 9 1 f1 29 4 0 3 1 11 5 39 27 9 15",
   "c 8 17 11 5 3 27 1b 15 16 d80a c4 3 8 53 21 8 0 5 9 5 1 312 43 4d 3c"]

/-- The class AN. -/
def arabicNumberLines : List String :=
  ["660 9 2 1 106c4 9 7 9 117 1e"]

/-- The class EN beyond ASCII. -/
def numberLines : List String :=
  ["6f0 9 fbe8 1a"]

/-- The classes ES, ET, CS, BN and ON beyond ASCII. -/
def neutralLines : List String :=
  ["a1 6 2 0 2 1 2 0 2 1 5 1 4 0 4 0 18 0 20 0 1c2 1 8 d 3 5 7 1 6 8 2 10 76 0 81 0 194 0 3 2 77 1",
   "2 1 2 0 2 1 5b 0 74 0 b 0 10d 3 1f9 1 8 0 f6 0 102 7 7e 6 1c1 0 fb 3 453 9 67 0 29b 1 13f 0",
   "15 9 7 a 136 0 4 1 99 21 60d 1 3 0 2 4 2 b 4 0 9 2 3 0 3 3 2 0 2 7 4 c 2 6 42 7 2 18 43 0 4 0",
   "c 0 3 1 6 1 4 0 2 0 2 0 2 0 5 0 c 0 7 3 6 3 3d 1 5 9b 3 0 3 f7 3 a 46 19 2 93 17 a a1 1c0",
   "2 152 101 10b 2 66 4 64 2 96 3 89 e6 5 f 6 101 5d 23 19 2 3 2 52 10f 0 2 1 4 18 10 0 7 0 6 2",
   "61 0 5b 0 c5 25 1bdb 3f 5691 36 147 2 64 0 b 1 81 21 67 0 a0 3 d 1 3b 3 2f3 1 5058 f 16c 11",
   "41 1 37 7 2e 2 46 1 2bb 0 3f 4c 4 c 4 0 77f 0 21a 6 22f 0 162 8 17a 13 5fb c 969 1c 4ff1 0",
   "5c1e d5 25 2 4 1b3 7 16 10 10 2f9 1 16 41 4 0 bb 56 fa9 0 bf1 1 10f 2b 5 63 d e 3 e 2 e 2 24",
   "16 4 20 0 3e 2 3e 0 b3 5 9b 3d8 4 10 4 c 4 d9 7 b 5 0 10 b 5 37 9 9 7 27 9 1d 3 b 5 1 f 8",
   "28 157 9 d 3 c 4 a 4 38 2 0 5 f 3 b 5 9 8 92 2 5b b 0"]

def rightRanges : List (Nat × Nat) := Text.Table.ranges rightLines

def arabicNumberRanges : List (Nat × Nat) := Text.Table.ranges arabicNumberLines

def numberRanges : List (Nat × Nat) := Text.Table.ranges numberLines

def neutralRanges : List (Nat × Nat) := Text.Table.ranges neutralLines

/-- Marks without a width that are written from left to right all the same. -/
def leftMarks : List Nat := [0xCBF, 0xCC6, 0x11A07, 0x11A08, 0x11C3F]

def ofChar (c : Char) : Direction :=
  if c.toNat < 0x80 then
    if c.isAlpha then left else if c.isDigit then number else neutral
  else if Text.isNonspacing c then
    if leftMarks.contains c.toNat then left else attached
  else if Text.Table.contains rightRanges c then right
  else if Text.Table.contains arabicNumberRanges c then arabicNumber
  else if Text.Table.contains numberRanges c then number
  else if Text.Table.contains neutralRanges c then neutral
  else left

end Direction

def turns (c : Char) : Bool :=
  0x80 ≤ c.toNat && [Direction.right, .arabicNumber].contains (Direction.ofChar c)

/-- A label starts in one direction, holds nothing of the other, and ends, marks aside, in a
letter or number. From right to left there is one kind of number at most. -/
def keepsDirection (label : List Char) : Bool :=
  let ds := label.map Direction.ofChar
  let last := (ds.reverse.dropWhile (· == .attached)).head?
  match ds with
  | [] => true
  | .left :: rest =>
    rest.all [Direction.left, .number, .neutral, .attached].contains &&
      last.any [Direction.left, .number].contains
  | .right :: rest =>
    rest.all (· != .left) && last.any [Direction.right, .number, .arabicNumber].contains &&
      !(rest.contains .number && rest.contains .arabicNumber)
  | _ => false

end HearingSync.Url.Domain
