import HearingSync.Filing
/-!
Reading the arguments of a command: options with a value, given once, and the switches that hold for
every command.
-/

namespace HearingSync.CommandLine

inductive Stop where
  | usage
  | help
  | version
  deriving DecidableEq, Repr

inductive Token where
  | separator
  | long (name : String) (value : Option String)
  | short (letters : List Char)
  | word (text : String)
  deriving DecidableEq, Repr

/-- A dash alone is a word. -/
def Token.ofText (s : String) : Token :=
  match s.toList with
  | ['-', '-'] => .separator
  | '-' :: '-' :: cs =>
    let isName (c : Char) : Bool := c != '='
    .long (String.ofList (cs.takeWhile isName)) ((cs.dropWhile isName).tail?.map String.ofList)
  | ['-'] => .word s
  | '-' :: cs => .short cs
  | _ => .word s

structure Switches where
  verbosity : Nat := 0
  jsonLogs : Bool := false
  deriving DecidableEq, Repr

structure Matches where
  values : Filing String String := []
  switches : Switches := {}
  deriving Repr

structure Grammar where
  options : List String
  hasSwitches : Bool
  hasVersion : Bool

def setValue (m : Matches) (name value : String) : Except Stop Matches :=
  match m.values.get? name with
  | some _ => .error .usage
  | none => .ok { m with values := m.values.put name value }

def switchLong (g : Grammar) (m : Matches) (name : String) : Except Stop Matches :=
  if name == "help" then .error .help
  else if name == "version" && g.hasVersion then .error .version
  else if name == "verbose" && g.hasSwitches then
    .ok { m with switches := { m.switches with verbosity := m.switches.verbosity + 1 } }
  else if name == "json-logs" && g.hasSwitches && !m.switches.jsonLogs then
    .ok { m with switches := { m.switches with jsonLogs := true } }
  else .error .usage

def switchShort (g : Grammar) (m : Matches) (letter : Char) : Except Stop Matches :=
  if letter == 'h' then switchLong g m "help"
  else if letter == 'V' then switchLong g m "version"
  else if letter == 'v' then switchLong g m "verbose"
  else .error .usage

def readArguments (g : Grammar) :
    Matches → List String → Except Stop (Matches × Option (String × List String))
  | m, [] => .ok (m, none)
  | m, s :: rest =>
    match Token.ofText s with
    | .separator => if rest.isEmpty then .ok (m, none) else .error .usage
    | .word text => .ok (m, some (text, rest))
    | .short letters => do readArguments g (← letters.foldlM (switchShort g) m) rest
    | .long name (some value) =>
      if g.options.contains name then do readArguments g (← setValue m name value) rest
      else .error .usage
    | .long name none =>
      if g.options.contains name then
        match rest with
        | [] => .error .usage
        | next :: rest =>
          match Token.ofText next with
          | .word value => do readArguments g (← setValue m name value) rest
          | _ => .error .usage
      else do readArguments g (← switchLong g m name) rest

def readOptions (g : Grammar) (args : List String) : Except Stop Matches := do
  match ← readArguments g {} args with
  | (m, none) => return m
  | (_, some _) => .error .usage

end HearingSync.CommandLine
