import HearingSync.Text.Numeral
/-!
Percent-encoding. Each part of a URL has its own set of characters that are written as the bytes of
their UTF-8 form; characters outside ASCII are so in every part.
-/

namespace HearingSync.Url

def isControlOrWide (c : Char) : Bool :=
  c.toNat < 0x20 || 0x7F ≤ c.toNat

def escapedInFragment (c : Char) : Bool :=
  isControlOrWide c || [' ', '"', '<', '>', '\x60'].contains c

def escapedInQuery (isSpecial : Bool) (c : Char) : Bool :=
  isControlOrWide c || [' ', '"', '#', '<', '>'].contains c || (isSpecial && c == '\'')

def escapedInPath (c : Char) : Bool :=
  escapedInFragment c || ['#', '?', '\x7b', '\x7d'].contains c

def escapedInCredentials (c : Char) : Bool :=
  escapedInPath c || ['/', ':', ';', '=', '@', '[', '\\', ']', '^', '|'].contains c

def hexDigit (n : Nat) : Char :=
  if n < 10 then Char.ofNat (0x30 + n) else Char.ofNat (0x37 + n)

def escapeByte (b : UInt8) : List Char :=
  ['%', hexDigit (b.toNat / 16), hexDigit (b.toNat % 16)]

def escape (escaped : Char → Bool) (cs : List Char) : List Char :=
  cs.flatMap fun c => if escaped c then (String.utf8EncodeChar c).flatMap escapeByte else [c]

def escapedByte? : List UInt8 → Option UInt8
  | 0x25 :: high :: low :: _ =>
    match Text.digitValue? high.toNat, Text.digitValue? low.toNat with
    | some h, some l => some (UInt8.ofNat (16 * h + l))
    | _, _ => none
  | _ => none

/-- Replaces each escape by its byte. `skip` bytes belong to an escape that has been replaced. -/
def unescape : Nat → List UInt8 → List UInt8
  | _, [] => []
  | skip + 1, _ :: rest => unescape skip rest
  | 0, b :: rest =>
    match escapedByte? (b :: rest) with
    | some byte => byte :: unescape 2 rest
    | none => b :: unescape 0 rest

def unescaped? (s : String) : Option String :=
  String.fromUTF8? ⟨(unescape 0 s.toUTF8.toList).toArray⟩

end HearingSync.Url
