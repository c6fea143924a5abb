import HearingSync.Text.Blank
import HearingSync.Text.Split
import HearingSync.Url.Domain
import HearingSync.Url.Encoding
/-!
Hosts of URLs: domain names, and addresses of both versions of the protocol.
-/

namespace HearingSync

inductive UrlError where
  | relative
  | emptyHost
  | invalidPort
  | invalidIpv4
  | invalidIpv6
  | invalidName
  | invalidCharacter
  deriving DecidableEq, Repr

def UrlError.message : UrlError → String
  | .relative => "relative URL without a base"
  | .emptyHost => "empty host"
  | .invalidPort => "invalid port number"
  | .invalidIpv4 => "invalid IPv4 address"
  | .invalidIpv6 => "invalid IPv6 address"
  | .invalidName => "invalid international domain name"
  | .invalidCharacter => "invalid domain character"

namespace Url

inductive Host where
  | name (text : String)
  | ipv4 (address : Nat)
  | ipv6 (pieces : List Nat)
  deriving DecidableEq, Repr

namespace Host

/-- A number in an address: hexadecimal after 0x, octal after 0, else decimal. -/
def number? : List Char → Option Nat
  | [] => none
  | '0' :: 'x' :: cs => if cs.all Text.isHex then some (Text.numeral 16 cs) else none
  | '0' :: 'X' :: cs => if cs.all Text.isHex then some (Text.numeral 16 cs) else none
  | ['0'] => some 0
  | '0' :: cs => if cs.all Text.isOctal then some (Text.numeral 8 cs) else none
  | cs => if cs.all Char.isDigit then some (Text.numeral 10 cs) else none

def dottedParts (cs : List Char) : List (List Char) :=
  let parts := Text.splitOn (· == '.') cs
  if parts.getLast? = some [] then parts.dropLast else parts

/-- A name whose last part is a number is an address. -/
def endsInNumber (cs : List Char) : Bool :=
  match (dottedParts cs).getLast? with
  | none => false
  | some part => (!part.isEmpty && part.all Char.isDigit) || (number? part).isSome

/-- The last number fills the bytes that the others leave. -/
def parseIpv4 (cs : List Char) : Except UrlError Nat :=
  let parts := dottedParts cs
  match parts.mapM number? with
  | none => .error .invalidIpv4
  | some numbers =>
    let bytes := numbers.dropLast
    let last := numbers.getLast?.getD 0
    let room := 8 * (4 - bytes.length)
    if parts.length > 4 || bytes.any (· > 255) || last ≥ 1 <<< room then
      .error .invalidIpv4
    else
      .ok (bytes.foldl (256 * · + ·) 0 <<< room + last)

def ipv4Text (address : Nat) : String :=
  ".".intercalate ([3, 2, 1, 0].map fun i => toString (address >>> (8 * i) % 256))

def trailingIpv4? (cs : List Char) : Option (List Nat) :=
  let isByte (part : List Char) : Bool :=
    !part.isEmpty && part.length ≤ 3 && part.all Char.isDigit && Text.numeral 10 part ≤ 255 &&
      (part.length = 1 || part.head? != some '0')
  match Text.splitOn (· == '.') cs with
  | [a, b, c, d] =>
    let piece (high low : List Char) : Nat := 256 * Text.numeral 10 high + Text.numeral 10 low
    if [a, b, c, d].all isByte then some [piece a b, piece c d] else none
  | _ => none

def pieces? : List (List Char) → Option (List Nat)
  | [] => some []
  | [part] =>
    if part.contains '.' then trailingIpv4? part
    else if !part.isEmpty && part.length ≤ 4 && part.all Text.isHex then some [Text.numeral 16 part]
    else none
  | part :: rest =>
    if !part.isEmpty && part.length ≤ 4 && part.all Text.isHex then
      (pieces? rest).map (Text.numeral 16 part :: ·)
    else none

def splitAtGap : List Char → Option (List Char × List Char)
  | [] => none
  | ':' :: ':' :: cs => some ([], cs)
  | c :: cs => (splitAtGap cs).map fun (before, after) => (c :: before, after)

def sidePieces? (cs : List Char) : Option (List Nat) :=
  if cs.isEmpty then some [] else pieces? (Text.splitOn (· == ':') cs)

def parseIpv6 (cs : List Char) : Except UrlError (List Nat) :=
  let pieces? : Option (List Nat) :=
    match splitAtGap cs with
    | none => (sidePieces? cs).filter (·.length = 8)
    | some (before, after) =>
      if before.contains '.' then none
      else
        match sidePieces? before, sidePieces? after with
        | some l, some r =>
          if l.length + r.length ≤ 7 then
            some (l ++ List.replicate (8 - l.length - r.length) 0 ++ r)
          else none
        | _, _ => none
  match pieces? with
  | some pieces => .ok pieces
  | none => .error .invalidIpv6

def zeroRun (pieces : List Nat) : Nat := (pieces.takeWhile (· = 0)).length

/-- Start and length of the longest run of zeros, the first of several. -/
def longestGap (pieces : List Nat) : Nat × Nat :=
  (List.range pieces.length).foldl
    (fun best i =>
      let run := zeroRun (pieces.drop i)
      if best.2 < run then (i, run) else best)
    (0, 0)

def piecesText (pieces : List Nat) : String :=
  ":".intercalate (pieces.map fun n => String.ofList (Nat.toDigits 16 n))

/-- The longest run of two zeros or more is left out. -/
def ipv6Text (pieces : List Nat) : String :=
  let (start, run) := longestGap pieces
  if run < 2 then piecesText pieces
  else piecesText (pieces.take start) ++ "::" ++ piecesText (pieces.drop (start + run))

def text : Host → String
  | .name s => s
  | .ipv4 address => ipv4Text address
  | .ipv6 pieces => "[" ++ ipv6Text pieces ++ "]"

def isForbidden (c : Char) : Bool :=
  ['\x00', '\t', '\n', '\r', ' ', '#', '/', ':', '<', '>', '?', '@', '[', '\\', ']', '^',
    '|'].contains c

def asciiName (s : String) : Except UrlError (List Char) :=
  match Domain.toAscii? s.toList with
  | none => .error .invalidName
  | some cs =>
    if cs.any fun c => isForbidden c || c == '%' || c.toNat < 0x20 || c.toNat = 0x7F then
      .error .invalidName
    else .ok cs

def bracketed? (cs : List Char) : Option (Except UrlError Host) :=
  match cs with
  | '[' :: rest =>
    if rest.getLast? = some ']' then some ((parseIpv6 rest.dropLast).map .ipv6)
    else some (.error .invalidIpv6)
  | _ => none

def parse (cs : List Char) : Except UrlError Host :=
  match bracketed? cs with
  | some result => result
  | none => do
    let decoded ← (unescaped? (String.ofList cs)).elim (.error .invalidName) .ok
    let name ← asciiName decoded
    if name.isEmpty then .error .emptyHost
    else if endsInNumber name then (parseIpv4 name).map .ipv4
    else .ok (.name (String.ofList name))

def parseGeneral (cs : List Char) : Except UrlError Host :=
  match bracketed? cs with
  | some result => result
  | none =>
    if cs.any isForbidden then .error .invalidCharacter
    else .ok (.name (String.ofList (escape isControlOrWide cs)))

end Host

end Url

end HearingSync
