import HearingSync.Url.Host
/-!
URLs: their parts, their text, and the reading of a text that stands alone.
-/

namespace HearingSync

structure Url.Credentials where
  user : String := ""
  password : Option String := none
  deriving DecidableEq, Repr

structure Url.Authority where
  credentials : Url.Credentials := {}
  host : Url.Host
  port : Option Nat
  deriving DecidableEq, Repr

inductive Url.Path where
  | rooted (segments : List String)
  | plain (text : String)
  deriving DecidableEq, Repr

structure Url where
  scheme : String
  authority : Option Url.Authority
  path : Url.Path
  query : Option String
  fragment : Option String
  deriving DecidableEq, Repr

namespace Url

def Credentials.isEmpty (c : Credentials) : Bool := c.user.isEmpty && c.password.isNone

def Credentials.text (c : Credentials) : String :=
  if c.isEmpty then "" else c.user ++ c.password.elim "" (":" ++ ·) ++ "@"

def Authority.text (a : Authority) : String :=
  a.credentials.text ++ a.host.text ++ (a.port.elim "" fun n => ":" ++ toString n)

def Path.text : Path → String
  | .rooted segments => String.join (segments.map ("/" ++ ·))
  | .plain text => text

def target (u : Url) : String :=
  u.path.text ++ u.query.elim "" ("?" ++ ·)

/-- Two slashes at the head of a path are kept apart from an authority. -/
def text (u : Url) : String :=
  let authority :=
    match u.authority with
    | some a => "//" ++ a.text
    | none => if u.path.text.startsWith "//" then "/." else ""
  u.scheme ++ ":" ++ authority ++ u.target ++ u.fragment.elim "" ("#" ++ ·)

def withoutCredentials (u : Url) : Url :=
  { u with authority := u.authority.map fun a => { a with credentials := {} } }

def defaultPort? : String → Option Nat
  | "http" => some 80
  | "ws" => some 80
  | "https" => some 443
  | "wss" => some 443
  | "ftp" => some 21
  | _ => none

inductive SchemeKind where
  | web
  | file
  | other
  deriving DecidableEq, Repr

def schemeKind (scheme : String) : SchemeKind :=
  if (defaultPort? scheme).isSome then .web else if scheme == "file" then .file else .other

def SchemeKind.isSpecial (k : SchemeKind) : Bool := k != .other

/-- A backslash is a slash in all but the URLs of other schemes. -/
def SchemeKind.isSlash (k : SchemeKind) (c : Char) : Bool :=
  c == '/' || (k.isSpecial && c == '\\')

namespace Parse

def isDropped (c : Char) : Bool := c == '\t' || c == '\n' || c == '\r'

/-- Control characters and blanks at either end do not count, nor do tabs and line ends. -/
def clean (cs : List Char) : List Char :=
  let isOuter (c : Char) : Bool := c.toNat ≤ 0x20
  let cs := (cs.dropWhile isOuter).reverse.dropWhile isOuter
  cs.reverse.filter fun c => !isDropped c

def isSchemeChar (c : Char) : Bool :=
  c.isAlphanum || c == '+' || c == '-' || c == '.'

def scheme? (cs : List Char) : Option (String × List Char) :=
  match cs with
  | [] => none
  | c :: _ =>
    match cs.dropWhile isSchemeChar with
    | ':' :: rest =>
      if c.isAlpha then some (String.ofList ((cs.takeWhile isSchemeChar).map Char.toLower), rest)
      else none
    | _ => none

def splitTail (cs : List Char) : List Char × Option (List Char) × Option (List Char) :=
  let notHash (c : Char) : Bool := c != '#'
  let front := cs.takeWhile notHash
  let fragment := (cs.dropWhile notHash).tail?
  let notMark (c : Char) : Bool := c != '?'
  (front.takeWhile notMark, (front.dropWhile notMark).tail?, fragment)

def isDot (segment : String) : Bool :=
  [".", "%2e"].contains (Text.asciiLower segment)

def isDoubleDot (segment : String) : Bool :=
  ["..", ".%2e", "%2e.", "%2e%2e"].contains (Text.asciiLower segment)

def isDriveLetter (cs : List Char) : Bool :=
  match cs with
  | [c, ':'] => c.isAlpha
  | [c, '|'] => c.isAlpha
  | _ => false

def startsWithDrive (cs : List Char) : Bool :=
  isDriveLetter (cs.take 2) && (cs.drop 2).head?.all (· == '\\')

/-- The path without its last segment; a drive stays, in the URLs of every scheme. -/
def dropLastSegment (segments : List String) : List String :=
  match segments.getLast? with
  | none => []
  | some segment => if startsWithDrive segment.toList then segments else segments.dropLast

/-- The path after one more segment. A drive that comes first in the path of a file gets a colon. -/
def addSegment (k : SchemeKind) (path : List String) (segment : String) (isLast : Bool) :
    List String :=
  if isDoubleDot segment then
    let path := dropLastSegment path
    if isLast then path ++ [""] else path
  else if isDot segment then
    if isLast then path ++ [""] else path
  else if k = .file ∧ path = [] ∧ isDriveLetter segment.toList then
    [String.ofList (segment.toList.take 1) ++ ":"]
  else path ++ [segment]

def addSegments (k : SchemeKind) : List String → List String → List String
  | path, [] => path
  | path, [segment] => addSegment k path segment true
  | path, segment :: rest => addSegments k (addSegment k path segment false) rest

def segments (k : SchemeKind) (cs : List Char) : List String :=
  let raw := (Text.splitOn k.isSlash cs).map fun part => String.ofList (escape escapedInPath part)
  addSegments k [] raw

def dropSlash (k : SchemeKind) (cs : List Char) : List Char :=
  match cs with
  | c :: rest => if k.isSlash c then rest else cs
  | [] => []

/-- User name and password; an empty password counts as none. -/
def credentials (cs : List Char) : Credentials :=
  let part (cs : List Char) : String := String.ofList (escape escapedInCredentials cs)
  let password := (cs.dropWhile (· != ':')).tail
  { user := part (cs.takeWhile (· != ':'))
    password := if password.isEmpty then none else some (part password) }

def splitAtSign (cs : List Char) : Option (List Char) × List Char :=
  if cs.contains '@' then
    let back := cs.reverse
    (some (back.dropWhile (· != '@')).tail.reverse, (back.takeWhile (· != '@')).reverse)
  else (none, cs)

def splitHost : Bool → List Char → List Char × List Char
  | _, [] => ([], [])
  | inBrackets, c :: cs =>
    if c == ':' && !inBrackets then ([], c :: cs)
    else
      let inside := if c == '[' then true else if c == ']' then false else inBrackets
      let (host, rest) := splitHost inside cs
      (c :: host, rest)

def port (scheme : String) (cs : List Char) : Except UrlError (Option Nat) :=
  match cs with
  | [] => .ok none
  | _ :: ds =>
    if !ds.all Char.isDigit || Text.numeral 10 ds > 65535 then .error .invalidPort
    else if ds.isEmpty || defaultPort? scheme = some (Text.numeral 10 ds) then .ok none
    else .ok (some (Text.numeral 10 ds))

def authority (scheme : String) (k : SchemeKind) (cs : List Char) (followed : Bool) :
    Except UrlError (Authority × List Char) := do
  let (user, hostAndPort) := splitAtSign cs
  if user = some [] ∧ hostAndPort = [] ∧ followed then throw .emptyHost
  let credentials := credentials (user.getD [])
  let (hostChars, portAndRest) := splitHost false hostAndPort
  let portChars := portAndRest.takeWhile (· != '\\')
  if hostChars.isEmpty && (k.isSpecial || !portChars.isEmpty) then throw .emptyHost
  let host ← if k.isSpecial then Host.parse hostChars else Host.parseGeneral hostChars
  let port ← port scheme portChars
  if hostChars.isEmpty && !credentials.isEmpty then throw .emptyHost
  return ({ credentials, host, port }, portAndRest.dropWhile (· != '\\'))

def afterSlashes (scheme : String) (k : SchemeKind) (cs : List Char) :
    Except UrlError (Authority × List Char) := do
  let isEnd (c : Char) : Bool := k.isSlash c || c == '?' || c == '#'
  let rest := cs.dropWhile fun c => !isEnd c
  let (a, kept) ← authority scheme k (cs.takeWhile fun c => !isEnd c) (!rest.isEmpty)
  return (a, kept ++ rest)

/-- The host of a file, none for this machine, and the text of the path. A drive is no host. -/
def fileHost (cs : List Char) : Except UrlError (Option Host × List Char) :=
  let isEnd (c : Char) : Bool := SchemeKind.file.isSlash c || c == '?' || c == '#'
  let hostChars := cs.takeWhile fun c => !isEnd c
  let rest := cs.dropWhile fun c => !isEnd c
  if hostChars.isEmpty then .ok (none, rest)
  else if isDriveLetter hostChars then .ok (none, cs)
  else
    match Host.parse hostChars with
    | .error e => .error e
    | .ok (.name "localhost") => .ok (none, rest)
    | .ok host => .ok (some host, dropSlash .file rest)

def file (cs : List Char) : Except UrlError (Option Host × List Char) :=
  let isSlash := SchemeKind.file.isSlash
  match cs with
  | a :: b :: rest =>
    if isSlash a && isSlash b then fileHost rest else .ok (none, dropSlash .file cs)
  | _ => .ok (none, dropSlash .file cs)

/-- The host and the path of a file. A path that starts with a drive is on this machine; empty
segments at its head do not count. -/
def filePath (host : Option Host) (segments : List String) : Authority × Path :=
  let isLocal := (segments.head?.map fun s => isDriveLetter s.toList).getD false
  let path :=
    match segments.dropWhile (· == "") with
    | [] => [""]
    | rest => rest
  ({ host := if isLocal then .name "" else host.getD (.name ""), port := none }, .rooted path)

def finish (scheme : String) (authority : Option Authority)
    (tail : Option (List Char) × Option (List Char)) (path : Path) : Url :=
  { scheme, authority, path
    query := tail.1.map fun q =>
      String.ofList (escape (escapedInQuery (schemeKind scheme).isSpecial) q)
    fragment := tail.2.map fun f => String.ofList (escape escapedInFragment f) }

end Parse

def parse (s : String) : Except UrlError Url :=
  match Parse.scheme? (Parse.clean s.toList) with
  | none => .error .relative
  | some (scheme, rest) =>
    match schemeKind scheme with
    | .web => do
      let (authority, rest) ← Parse.afterSlashes scheme .web (rest.dropWhile SchemeKind.web.isSlash)
      let (path, tail) := Parse.splitTail rest
      let segments := Parse.segments .web (Parse.dropSlash .web path)
      return Parse.finish scheme (some authority) tail (.rooted segments)
    | .file => do
      let (host, rest) ← Parse.file rest
      let (path, tail) := Parse.splitTail rest
      let (authority, path) := Parse.filePath host (Parse.segments .file path)
      return Parse.finish scheme (some authority) tail path
    | .other =>
      match rest with
      | '/' :: '/' :: rest => do
        let (authority, rest) ← Parse.afterSlashes scheme .other rest
        let (path, tail) := Parse.splitTail rest
        let segments :=
          if path.isEmpty then [] else Parse.segments .other (Parse.dropSlash .other path)
        return Parse.finish scheme (some authority) tail (.rooted segments)
      | _ =>
        let (path, tail) := Parse.splitTail rest
        match path with
        | '/' :: path => .ok (Parse.finish scheme none tail (.rooted (Parse.segments .other path)))
        | _ =>
          let text := String.ofList (escape isControlOrWide path)
          .ok (Parse.finish scheme none tail (.plain text))

def join (base : Url) (path : String) : String :=
  let front := (base.text.toList.reverse.dropWhile (· == '/')).reverse
  String.ofList (front ++ '/' :: path.toList.dropWhile (· == '/'))

end Url

end HearingSync
