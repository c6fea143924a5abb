/-!
Numbers written in digits of base 16 or less.
-/

namespace HearingSync.Text

def digitValue? (n : Nat) : Option Nat :=
  if 0x30 ≤ n ∧ n ≤ 0x39 then some (n - 0x30)
  else if 0x41 ≤ n ∧ n ≤ 0x46 then some (n - 0x37)
  else if 0x61 ≤ n ∧ n ≤ 0x66 then some (n - 0x57)
  else none

def isHex (c : Char) : Bool := (digitValue? c.toNat).isSome

def isOctal (c : Char) : Bool := 0x30 ≤ c.toNat && c.toNat ≤ 0x37

/-- A character that is no digit counts as zero. -/
def numeral (base : Nat) (cs : List Char) : Nat :=
  cs.foldl (fun n c => base * n + (digitValue? c.toNat).getD 0) 0

end HearingSync.Text
