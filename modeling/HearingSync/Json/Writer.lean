import HearingSync.Json.Value
import HearingSync.Text.Quoted
/-!
Writing JSON: compact, and laid out with two spaces a level.
-/

namespace HearingSync.Json

def escapeChar (c : Char) : List Char :=
  match c with
  | '"' => ['\\', '"']
  | '\\' => ['\\', '\\']
  | '\x08' => ['\\', 'b']
  | '\x0c' => ['\\', 'f']
  | '\n' => ['\\', 'n']
  | '\r' => ['\\', 'r']
  | '\t' => ['\\', 't']
  | c =>
    if c.toNat < 0x20 then
      ['\\', 'u', '0', '0'] ++ (if c.toNat < 0x10 then ['0'] else []) ++ Text.hexDigits c.toNat
    else [c]

def renderString (s : String) : String :=
  String.ofList ('"' :: s.toList.flatMap escapeChar ++ ['"'])

mutual

def render : Json → String
  | .null => "null"
  | .bool b => if b then "true" else "false"
  | .number literal => literal
  | .string s => renderString s
  | .array items => "[" ++ renderItems items ++ "]"
  | .object members => "\x7b" ++ renderMembers members ++ "\x7d"
  | .fault _ => "null"

def renderItems : List Json → String
  | [] => ""
  | [j] => render j
  | j :: js => render j ++ "," ++ renderItems js

def renderMembers : List (String × Json) → String
  | [] => ""
  | [(k, j)] => renderString k ++ ":" ++ render j
  | (k, j) :: ms => renderString k ++ ":" ++ render j ++ "," ++ renderMembers ms

end

def newLine (depth : Nat) : String :=
  "\n" ++ String.ofList (List.replicate (2 * depth) ' ')

mutual

def layOut (depth : Nat) : Json → String
  | .array [] => "[]"
  | .array (j :: js) => "[" ++ layOutItems (depth + 1) (j :: js) ++ newLine depth ++ "]"
  | .object [] => "\x7b\x7d"
  | .object (m :: ms) => "\x7b" ++ layOutMembers (depth + 1) (m :: ms) ++ newLine depth ++ "\x7d"
  | .null => "null"
  | .bool b => if b then "true" else "false"
  | .number literal => literal
  | .string s => renderString s
  | .fault _ => "null"

def layOutItems (depth : Nat) : List Json → String
  | [] => ""
  | [j] => newLine depth ++ layOut depth j
  | j :: js => newLine depth ++ layOut depth j ++ "," ++ layOutItems depth js

def layOutMembers (depth : Nat) : List (String × Json) → String
  | [] => ""
  | [(k, j)] => newLine depth ++ renderString k ++ ": " ++ layOut depth j
  | (k, j) :: ms =>
    newLine depth ++ renderString k ++ ": " ++ layOut depth j ++ "," ++ layOutMembers depth ms

end

def pretty (j : Json) : String := layOut 0 j

end HearingSync.Json
