/-!
The tokens of a JSON text. Reading stops at the first character that starts no token; it is then
the last token. A string token is `none` where its escapes name half a surrogate pair.
-/

namespace HearingSync.Json

inductive Token where
  | openObject
  | closeObject
  | openArray
  | closeArray
  | colon
  | comma
  | null
  | bool (b : Bool)
  | number (literal : String)
  | string (s : Option String)
  | junk
  deriving DecidableEq, Repr

def isSpace (c : Char) : Bool :=
  c == ' ' || c == '\n' || c == '\t' || c == '\r'

def hexValue (c : Char) : Option Nat :=
  let n := c.toNat
  if 0x30 ≤ n && n ≤ 0x39 then some (n - 0x30)
  else if 0x41 ≤ n && n ≤ 0x46 then some (n - 0x37)
  else if 0x61 ≤ n && n ≤ 0x66 then some (n - 0x57)
  else none

def hexValue4 (a b c d : Char) : Option Nat := do
  let a ← hexValue a
  let b ← hexValue b
  let c ← hexValue c
  let d ← hexValue d
  return ((a * 16 + b) * 16 + c) * 16 + d

def shortEscape (c : Char) : Option Char :=
  match c with
  | '"' => some '"'
  | '\\' => some '\\'
  | '/' => some '/'
  | 'b' => some '\x08'
  | 'f' => some '\x0c'
  | 'n' => some '\n'
  | 'r' => some '\r'
  | 't' => some '\t'
  | _ => none

/-- The rest of a string after its opening quote: code points, halves of surrogate pairs still
apart, and the text after the closing quote. -/
def scanString : List Char → Option (List Nat × List Char)
  | [] => none
  | '"' :: rest => some ([], rest)
  | '\\' :: 'u' :: a :: b :: c :: d :: rest =>
    match hexValue4 a b c d with
    | none => none
    | some n => (scanString rest).map fun r => (n :: r.1, r.2)
  | '\\' :: e :: rest =>
    match shortEscape e with
    | none => none
    | some c => (scanString rest).map fun r => (c.toNat :: r.1, r.2)
  | c :: rest =>
    if c.toNat < 0x20 || c == '\\' then none
    else (scanString rest).map fun r => (c.toNat :: r.1, r.2)

def isHighSurrogate (n : Nat) : Bool := 0xD800 ≤ n && n ≤ 0xDBFF

def isLowSurrogate (n : Nat) : Bool := 0xDC00 ≤ n && n ≤ 0xDFFF

def joinSurrogates : List Nat → Option (List Char)
  | [] => some []
  | h :: l :: rest =>
    if isHighSurrogate h then
      if isLowSurrogate l then
        (joinSurrogates rest).map
          (Char.ofNat (0x10000 + (h - 0xD800) * 0x400 + (l - 0xDC00)) :: ·)
      else none
    else if isLowSurrogate h then none
    else (joinSurrogates (l :: rest)).map (Char.ofNat h :: ·)
  | [n] =>
    if isHighSurrogate n || isLowSurrogate n then none else some [Char.ofNat n]

def scanNumber (cs : List Char) : Option (List Char × List Char) := do
  let (sign, cs) := match cs with
    | '-' :: rest => (['-'], rest)
    | cs => ([], cs)
  let whole := cs.takeWhile Char.isDigit
  let cs := cs.dropWhile Char.isDigit
  if whole.isEmpty || (whole.length > 1 && whole.head? == some '0') then none
  else
    let (fraction, cs) ← match cs with
      | '.' :: rest =>
        let digits := rest.takeWhile Char.isDigit
        if digits.isEmpty then none
        else some ('.' :: digits, rest.dropWhile Char.isDigit)
      | cs => some ([], cs)
    let (exponent, cs) ← match cs with
      | e :: rest =>
        if e == 'e' || e == 'E' then
          let (mark, rest) := match rest with
            | '+' :: rest => ([e, '+'], rest)
            | '-' :: rest => ([e, '-'], rest)
            | rest => ([e], rest)
          let digits := rest.takeWhile Char.isDigit
          if digits.isEmpty then none
          else some (mark ++ digits, rest.dropWhile Char.isDigit)
        else some ([], e :: rest)
      | [] => some ([], [])
    return (sign ++ whole ++ fraction ++ exponent, cs)

def scanToken (c : Char) (cs : List Char) : Option (Token × List Char) :=
  match c with
  | '{' => some (.openObject, cs)
  | '}' => some (.closeObject, cs)
  | '[' => some (.openArray, cs)
  | ']' => some (.closeArray, cs)
  | ':' => some (.colon, cs)
  | ',' => some (.comma, cs)
  | '"' => (scanString cs).map fun r => (.string ((joinSurrogates r.1).map String.ofList), r.2)
  | 'n' =>
    match cs with
    | 'u' :: 'l' :: 'l' :: rest => some (.null, rest)
    | _ => none
  | 't' =>
    match cs with
    | 'r' :: 'u' :: 'e' :: rest => some (.bool true, rest)
    | _ => none
  | 'f' =>
    match cs with
    | 'a' :: 'l' :: 's' :: 'e' :: rest => some (.bool false, rest)
    | _ => none
  | c => (scanNumber (c :: cs)).map fun r => (.number (String.ofList r.1), r.2)

/-- All tokens. Each step takes a character at least; the text's length bounds the steps. -/
def tokensWithin : Nat → List Char → List Token
  | 0, _ => []
  | _ + 1, [] => []
  | n + 1, c :: cs =>
    if isSpace c then tokensWithin n cs
    else
      match scanToken c cs with
      | none => [.junk]
      | some (t, rest) => t :: tokensWithin n rest

def tokens (s : String) : List Token :=
  let cs := s.toList
  tokensWithin cs.length cs

end HearingSync.Json
