import HearingSync.Text.Table
/-!
Marks, which combine with the character before them, and the combining classes, which say in what
order several marks of one character are written.
-/

namespace HearingSync.Text

/-- The general categories Mn and Me. -/
def nonspacingLines : List String :=
  ["300 6f 114 6 108 2c 2 0 2 1 2 1 2 0 49 a 31 14 11 0 66 6 3 5 3 1 2 3 24 0 1f 1a 5c a 3b 8 a 0",
   "19 3 2 8 2 2 2 4 2c 2 3c 8 2b 17 2 1f 38 0 2 0 5 7 5 0 4 6 b 1 1e 0 3b 0 5 3 9 0 15 1 1b 0 3 1",
   "3a 0 5 1 5 1 3 2 4 0 1f 1 4 0 c 1 3a 0 5 4 2 1 5 0 15 1 17 5 2 0 3b 0 3 0 2 3 9 0 8 1 c 1 1f 0",
   "3e 0 d 0 33 0 4 0 38 0 2 2 6 2 2 3 8 1 c 1 1e 0 3b 0 3 0 7 0 6 1 15 1 1d 1 3a 1 5 3 9 0 15 1",
   "1e 0 49 0 8 2 2 0 5b 0 3 6 d 7 63 0 3 8 c 6 4a 1 1c 0 2 0 2 0 38 d 2 4 2 1 6 a 2 23 a 0 67 3",
   "2 5 2 1 3 1 1a 1 5 2 11 3 e 0 3 1 7 0 10 0 2c0 2 3b3 2 1e 1 1f 1 1f 1 41 1 2 6 9 0 3 a a 0",
   "2e 2 2 0 76 1 23 0 77 2 5 1 a 0 7 2 dc 1 3 0 3b 0 2 6 2 0 2 0 3 7 7 9 3 0 31 2d 3 b 15 3 31 0",
   "2 4 2 0 6 0 29 8 d 1 21 3 3 1 2 2 39 0 2 1 4 0 2 2 3b 7 3 1 99 2 2 c 2 6 5 0 7 0 4 1 c7 3f",
   "2d1 20 bff 2 8e 0 61 1f 22b 3 6c 1 75d5 3 2 9 21 1 51 1 111 0 4 0 5 0 1a 1 6 0 98 1 1b 11 e 0",
   "27 7 1a a 2f 2 31 0 3 3 3 1 28 0 44 5 3 1 3 1 d 0 9 0 30 0 34 0 2 2 3 1 6 1 2 0 2b 1 9 0 ef 0",
   "3 0 5 0 4f31 0 2e2 f 11 f 3ce 0 e3 0 96 4 687 2 2 1 6 3 29 2 5 0 a6 1 23e 3 42 4 13e 1 4e 5",
   "47 a 32 3 7c 0 37 e 2a 0 3 1 b 2 32 3 3 1 8 0 3e 2 25 4 2 7 3f 0 d 1 35 8 b 3 3 0 60 2 3 0 2 1",
   "7 0 3 0 9e 0 4 7 16 1 3a 1 4 0 26 6 4 4 47 5 e 0 2 0 2 0 f 1 56 7 3 2 2 0 18 0 55 5 2 0 5 1",
   "2 1 ef 3 7 1 2 1 1c 1 56 7 3 0 2 1 6b 0 2 0 3 5 2 0 66 0 2 0 3 3 2 4 104 8 2 1 101 1 2 0 5 0",
   "91 3 3 1 5 0 21 9 29 5 3 3 9 0 a 5 3 2 2f c 2 1 c7 0 2 2 2 0 ca 6 2 5 2 0 53 15 3 6 2 1 2 1",
   "7b 5 4 0 2 1 2 6 2 0 49 1 4 0 2 0 15c 1 c 1 35 4 6 0 2 0 18 0 14e6 0 7 e 2cc9 b 4 2 9c1 4 3c 6",
   "419 0 40 3 52 0 4cb9 1 1262 2d 3 16 221 2 12 7 3 6 1f 3 95 2 7bc 36 5 31 9 0 f 0 17 4 2 e",
   "551 6 2 10 3 6 2 1 2 4 65 0 a1 6 178 0 3e 3 1fd 3 ff 1 f4 0 3 0 8 1 6 0 1db 6 6e 6 c17b6 ef"]

/-- The general category Mc. -/
def spacingLines : List String :=
  ["903 0 38 0 3 2 9 3 2 1 33 1 3b 2 7 1 3 1 b 0 2c 0 3b 2 43 0 3b 2 9 0 2 1 36 1 3b 0 2 0 7 1 3 1",
   "b 0 67 1 2 1 4 2 2 2 b 0 2a 2 3e 3 3e 1 3b 0 2 4 3 1 2 1 a 1 1d 0 f 1 3b 2 6 2 2 2 b 0 2b 1",
   "4c 2 7 7 13 1 14b 1 40 0 ac 1 5 0 7 0 3 1 1a 1 b 2 3 6 16 1 3 5 3 0 b 2 679 0 1f 0 82 0 8 7",
   "2 1 15b 3 3 2 5 1 2 5 e1 1 3b 0 2 0 a 0 2 1 9 5 92 0 31 0 6 0 2 4 2 1 3e 0 1f 0 5 1 3 0 3d 0",
   "3 2 2 0 4 1 31 7 9 1 ac 0 16 0 1337 1 77f4 1 3 0 59 1 33 f 8f 1 30 0 31 1 5 1 3 2 6f 1 3 1",
   "19 0 2e 0 2 0 6e 0 3 1 6 0 ee 1 2 1 2 1 2 0 6414 0 2 0 80 0 2e 2 5 1 74 0 19 1 3c 0 31 2 a 1",
   "e 0 5e 2 4 1 2 0 ab 2 20 1 3b 1 2 3 3 1 3 2 a 0 b 1 55 2 8 0 3 0 2 3 2 1 2 0 66 2 9 1 4 0 6b 2",
   "7 0 2 3 3 0 ee 2 7 3 3 0 72 2 9 1 2 0 6e 0 2 1 7 0 68 0 2 1 5 0 106 2 a 0 f8 5 2 1 5 0 3 0 2 0",
   "8f 2 9 3 5 0 55 0 1e 1 3f 0 ca 0 4 0 2 0 c8 0 f 0 6b 0 8 0 3 0 d6 4 5 1 2 0 15f 1 d 0 31 1 9 1",
   "2 0 41e9 2 e25 36 69 1 6174 1 7 5"]

/-- The Canonical_Combining_Class property where it is not zero. -/
def classLines : List String :=
  ["300 14 e6 1 0 e8 1 3 dc 1 0 e8 1 0 d8 1 4 dc 1 1 ca 1 3 dc 1 1 ca 1 a dc 1 4 1 1 3 dc 1 2 e6",
   "3 0 e6 3 0 f0 1 0 e6 1 2 dc 1 2 e6 1 1 dc 2 2 e6 1 3 dc 1 0 e6 1 0 e8 1 1 dc 1 0 e6 1 0 e9",
   "1 1 ea 1 0 e9 1 1 ea 1 0 e9 1 c e6 114 4 e6 10a 0 dc 1 3 e6 1 0 dc 1 2 e6 1 0 de 1 0 dc 1 5 e6",
   "1 5 dc 1 1 e6 1 0 dc 1 1 e6 1 0 de 1 0 e4 1 0 e6 1 0 a 1 0 b 1 0 c 1 0 d 1 0 e 1 0 f 1 0 10",
   "1 0 11 1 0 12 1 1 13 1 0 14 1 0 15 1 0 16 2 0 17 2 0 18 1 0 19 2 0 e6 1 0 dc 2 0 12 49 7 e6",
   "1 0 1e 1 0 1f 1 0 20 31 0 1b 1 0 1c 1 0 1d 1 0 1e 1 0 1f 1 0 20 1 0 21 1 0 22 1 1 e6 1 1 dc",
   "1 4 e6 1 0 dc 1 1 e6 1 0 dc 11 0 23 66 6 e6 3 3 e6 1 0 dc 1 0 e6 3 1 e6 2 0 dc 1 1 e6 1 0 dc",
   "24 0 24 1f 0 e6 1 0 dc 1 1 e6 1 0 dc 1 1 e6 1 2 dc 1 0 e6 1 1 dc 1 0 e6 1 0 dc 1 2 e6 1 0 dc",
   "1 0 e6 1 0 dc 1 0 e6 1 0 dc 1 0 e6 1 0 dc 1 1 e6 a1 6 e6 1 0 dc 1 0 e6 a 0 dc 19 3 e6 2 8 e6",
   "2 2 e6 2 4 e6 2c 2 dc 3c 1 e6 1 2 dc 1 3 e6 2b 4 e6 1 4 dc 1 d e6 2 0 dc 1 1 e6 1 0 dc 1 1 e6",
   "1 0 dc 1 2 e6 1 2 dc 1 0 1b 1 0 1c 1 0 1d 1 2 e6 1 0 dc 1 1 e6 1 1 dc 1 4 e6 3d 0 7 11 0 9",
   "4 0 e6 1 0 dc 1 1 e6 68 0 7 11 0 9 31 0 e6 3e 0 7 11 0 9 6f 0 7 11 0 9 6f 0 7 11 0 9 80 0 9",
   "6f 0 7 11 0 9 8 0 54 1 0 5b 66 0 7 11 0 9 6e 1 9 11 0 9 7d 0 9 6e 1 67 1 0 9 e 3 6b 6d 1 76",
   "1 0 9 e 3 7a 4d 1 dc 1c 0 dc 2 0 dc 2 0 d8 38 0 81 1 0 82 2 0 84 6 3 82 3 0 82 2 1 e6 1 0 9",
   "2 1 e6 3f 0 dc 71 0 7 2 1 9 53 0 dc 2d0 2 e6 3b5 1 9 1f 0 9 9e 0 9 b 0 e6 cc 0 e4 90 0 de",
   "1 0 e6 1 0 dc dc 0 e6 1 0 dc 48 0 9 15 7 e6 3 0 dc 31 4 e6 1 5 dc 1 1 e6 1 0 dc 2 1 dc 1 1 e6",
   "1 1 dc 1 4 e6 1 0 dc 1 11 e6 1 0 dc 3 5 e6 1 0 dc 1 3 e6 1 0 ea 49 0 7 10 0 9 27 0 e6 1 0 dc",
   "1 6 e6 37 1 9 3b 0 7 c 1 9 44 0 7 99 2 e6 2 0 1 1 4 dc 1 1 e6 1 3 dc 1 0 e6 2 6 1 5 0 dc",
   "7 0 e6 4 1 e6 c7 1 e6 1 0 dc 1 6 e6 1 0 dc 1 1 e6 1 0 ea 1 0 d6 1 0 dc 1 0 ca 1 24 e6 1 0 e8",
   "1 1 e4 1 0 dc 1 0 da 1 0 e6 1 0 e9 1 0 dc 1 0 e6 1 0 dc 2d1 1 e6 1 1 1 1 3 e6 1 2 1 1 1 e6",
   "5 0 e6 4 1 1 1 0 e6 1 0 dc 1 0 e6 1 1 1 1 3 dc 1 0 e6 bff 2 e6 8e 0 9 61 1f e6 22b 0 da 1 0 e4",
   "1 0 e8 1 0 de 1 1 e0 6a 1 8 75d5 0 e6 5 9 e6 21 1 e6 51 1 e6 115 0 9 26 0 9 98 0 9 1c 11 e6",
   "3a 2 dc 26 0 9 60 0 7 d 0 9 f0 0 e6 2 1 e6 1 0 dc 3 1 e6 6 1 e6 2 0 e6 35 0 9 f7 0 9 4f31 0 1a",
   "302 6 e6 1 6 dc 1 1 e6 3ce 0 dc e3 0 dc 96 4 e6 693 0 dc 2 0 e6 29 0 e6 1 0 1 1 0 dc 5 0 9",
   "a6 0 e6 1 0 dc 23e 3 e6 42 4 e6 13e 1 e6 4e 1 dc 2 2 dc 47 1 dc 1 2 e6 1 0 dc 1 0 e6 1 3 dc",
   "32 0 e6 1 0 dc 1 0 e6 1 0 dc c1 0 9 2a 0 9 f 0 9 3a 0 9 1 0 7 46 2 e6 31 1 9 3f 0 7 4d 0 9",
   "a 0 7 6b 0 9 1 0 7 b3 0 7 1 0 9 51 1 7 11 0 9 19 6 e6 4 4 e6 5a 2 9 72 0 9 4 0 7 18 0 e6",
   "64 0 9 1 0 7 fc 0 9 1 0 7 7f 0 9 77 0 9 1 0 7 74 0 9 10e 0 9 1 0 7 103 1 9 5 0 7 9d 0 9 54 0 9",
   "13 0 9 52 0 9 1a6 0 9 103 0 7 2 1 9 52 0 9 1aa 1 9 41ed 0 9 9c1 4 1 3c 6 e6 4ba 1 6 4cad 0 1",
   "14c7 1 d8 1 2 1 4 0 e2 1 4 d8 9 7 dc 3 4 e6 1 1 dc 1f 3 e6 95 2 e6 dbc 6 e6 2 10 e6 3 6 e6",
   "2 1 e6 2 4 e6 65 0 e6 a1 6 e6 178 0 e6 3e 3 e6 1fd 1 e8 1 0 dc 1 0 e6 ff 0 e6 1 0 dc f4 0 e6",
   "3 0 e6 8 1 e6 6 0 e6 1db 6 dc 6e 5 e6 1 0 7"]

def nonspacingRanges : List (Nat × Nat) := Table.ranges nonspacingLines

def spacingRanges : List (Nat × Nat) := Table.ranges spacingLines

def classGrades : List ((Nat × Nat) × Nat) := Table.grades classLines

def isNonspacing (c : Char) : Bool := Table.contains nonspacingRanges c

def isMark (c : Char) : Bool := isNonspacing c || Table.contains spacingRanges c

def combiningClass (c : Char) : Nat :=
  if c.toNat < 0x300 then 0 else Table.grade classGrades c

end HearingSync.Text
