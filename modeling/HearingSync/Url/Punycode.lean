/-!
Labels of internationalised domain names: the ASCII characters first, then each further character
as its distance from the one before, in digits of base 36 with thresholds that adapt.
-/

namespace HearingSync.Url.Punycode

def digit (n : Nat) : Char :=
  if n < 26 then Char.ofNat (0x61 + n) else Char.ofNat (0x16 + n)

def threshold (position bias : Nat) : Nat :=
  max 1 (min 26 (position - bias))

def digits (bias : Nat) (position n : Nat) : List Char :=
  let t := threshold position bias
  if n < t then [digit n]
  else digit (t + (n - t) % (36 - t)) :: digits bias (position + 36) ((n - t) / (36 - t))
termination_by n
decreasing_by
  have h : 1 ≤ threshold position bias := Nat.le_max_left ..
  exact Nat.lt_of_le_of_lt (Nat.div_le_self _ _) (by omega)

/-- Divides by 35 until the value is small; the second part counts 36 for each division. -/
def shrink (delta position : Nat) : Nat × Nat :=
  if 455 < delta then shrink (delta / 35) (position + 36) else (delta, position)
termination_by delta
decreasing_by exact Nat.div_lt_self (by omega) (by omega)

def adapt (delta written : Nat) (isFirst : Bool) : Nat :=
  let damped := if isFirst then delta / 700 else delta / 2
  let (rest, position) := shrink (damped + damped / written) 0
  position + 36 * rest / (rest + 38)

structure State where
  out : List Char
  delta : Nat
  bias : Nat
  written : Nat

def scan (basic current : Nat) (s : State) (c : Char) : State :=
  if c.toNat < current then { s with delta := s.delta + 1 }
  else if c.toNat = current then
    { out := s.out ++ digits s.bias 36 s.delta
      delta := 0
      bias := adapt s.delta (s.written + 1) (s.written == basic)
      written := s.written + 1 }
  else s

def scanAll (label : List Char) (basic : Nat) : List Nat → Nat → State → State
  | [], _, s => s
  | current :: rest, next, s =>
    let s := { s with delta := s.delta + (current - next) * (s.written + 1) }
    let s := label.foldl (scan basic current) s
    scanAll label basic rest (current + 1) { s with delta := s.delta + 1 }

def insertSorted (n : Nat) : List Nat → List Nat
  | [] => [n]
  | k :: ks => if n < k then n :: k :: ks else if n = k then k :: ks else k :: insertSorted n ks

def encode (label : List Char) : List Char :=
  let basic := label.filter fun c => c.toNat < 0x80
  let wide := (label.filter fun c => 0x80 ≤ c.toNat).map Char.toNat
  let start : State := { out := [], delta := 0, bias := 72, written := basic.length }
  basic ++ (if basic.isEmpty then [] else ['-']) ++
    (scanAll label basic.length (wide.foldr insertSorted []) 0x80 start).out

def digitValue? (c : Char) : Option Nat :=
  if c.isLower then some (c.toNat - 0x61)
  else if c.isDigit then some (c.toNat - 0x16)
  else none

def limit : Nat := 4294967296

/-- How far the digits of a label have been read: the label so far, where the last number led, and
the number that is being read. -/
structure Reading where
  out : List Char
  code : Nat := 0x80
  previous : Nat := 0
  index : Nat := 0
  bias : Nat := 72
  weight : Nat := 1
  position : Nat := 36

def Reading.insert? (s : Reading) (index : Nat) : Option Reading :=
  let room := s.out.length + 1
  let code := s.code + index / room
  let place := index % room
  if code.isValidChar then
    some {
      out := s.out.take place ++ Char.ofNat code :: s.out.drop place
      code
      previous := place + 1
      index := place + 1
      bias := adapt (index - s.previous) room (s.previous == 0) }
  else none

/-- Takes one more digit; one below the threshold ends its number. -/
def Reading.step? (s : Reading) (c : Char) : Option Reading :=
  match digitValue? c with
  | none => none
  | some n =>
    let index := s.index + n * s.weight
    let t := threshold s.position s.bias
    let weight := s.weight * (36 - t)
    if limit ≤ index then none
    else if n < t then s.insert? index
    else if limit ≤ weight then none
    else some { s with index, weight, position := s.position + 36 }

def decode? (cs : List Char) : Option (List Char) :=
  let back := cs.reverse
  let digits := (back.takeWhile (· != '-')).reverse
  let basic := (back.dropWhile (· != '-')).tail.reverse
  if cs.contains '-' && basic.isEmpty then none
  else
    match digits.foldlM Reading.step? { out := basic } with
    | some s => if s.position = 36 then some s.out else none
    | none => none

end HearingSync.Url.Punycode
