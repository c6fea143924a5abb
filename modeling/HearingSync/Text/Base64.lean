/-!
Base 64: three bytes as four characters of an alphabet, with equals signs where bytes are missing
at the end.
-/

namespace HearingSync.Text.Base64

def digit (n : Nat) : Char :=
  if n < 26 then Char.ofNat (0x41 + n)
  else if n < 52 then Char.ofNat (0x61 + (n - 26))
  else if n < 62 then Char.ofNat (0x30 + (n - 52))
  else if n = 62 then '+'
  else '/'

def digits (count a b c : Nat) : List Char :=
  [a / 4, a % 4 * 16 + b / 16, b % 16 * 4 + c / 64, c % 64].map digit |>.take count

def encode : List UInt8 → List Char
  | [] => []
  | [a] => digits 2 a.toNat 0 0 ++ ['=', '=']
  | [a, b] => digits 3 a.toNat b.toNat 0 ++ ['=']
  | a :: b :: c :: rest => digits 4 a.toNat b.toNat c.toNat ++ encode rest

end HearingSync.Text.Base64
