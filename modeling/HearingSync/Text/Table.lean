import HearingSync.Text.Numeral
import HearingSync.Text.Split
/-!
Tables of code points in a compact form: hexadecimal numbers with blanks between them. Each row
says how far its code point lies after the end of the row before.
-/

namespace HearingSync.Text.Table

def numbers (lines : List String) : List Nat :=
  lines.flatMap fun line => (splitOn (· == ' ') line.toList).map (numeral 16)

/-- Ranges after the given code point: for each, how far it is off and how many more it holds. -/
def rangesAfter : Nat → List Nat → List (Nat × Nat)
  | last, gap :: more :: rest =>
    (last + gap, last + gap + more) :: rangesAfter (last + gap + more) rest
  | _, _ => []

def ranges (lines : List String) : List (Nat × Nat) := rangesAfter 0 (numbers lines)

def gradesAfter : Nat → List Nat → List ((Nat × Nat) × Nat)
  | last, gap :: more :: grade :: rest =>
    ((last + gap, last + gap + more), grade) :: gradesAfter (last + gap + more) rest
  | _, _ => []

def grades (lines : List String) : List ((Nat × Nat) × Nat) := gradesAfter 0 (numbers lines)

/-- Rows of any length after the given code point: how far the row is off, and its numbers. -/
def rowsAfter : Nat → List (List Nat) → List (Nat × List Nat)
  | _, [] => []
  | last, [] :: rest => rowsAfter last rest
  | last, (gap :: row) :: rest => (last + gap, row) :: rowsAfter (last + gap) rest

def rows (lines : List String) : List (Nat × List Nat) :=
  rowsAfter 0 (lines.flatMap fun line =>
    (splitOn (· == ',') line.toList).map fun row => numbers [String.ofList row])

def contains (ranges : List (Nat × Nat)) (c : Char) : Bool :=
  ranges.any fun r => r.1 ≤ c.toNat && c.toNat ≤ r.2

def grade (grades : List ((Nat × Nat) × Nat)) (c : Char) : Nat :=
  ((grades.find? fun g => g.1.1 ≤ c.toNat && c.toNat ≤ g.1.2).map (·.2)).getD 0

end HearingSync.Text.Table
