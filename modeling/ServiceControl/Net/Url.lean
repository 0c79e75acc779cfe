import ServiceControl.Net.Host
import ServiceControl.Text.Ascii
import ServiceControl.Text.Hex
import ServiceControl.Text.Utf8

/-!
# URLs

A URL is a scheme, a host with a port, a path, a query, and a fragment. Schemes of the web need a
host and treat backslashes as slashes; file URLs may do without a host and shorten their path to
one slash in front; all other schemes keep what they are given. Dots as parts of a path are
resolved when it is read.
-/

namespace ServiceControl.Net

/-- What is known about a scheme. -/
inductive SchemeKind where
  | web
  | file
  | other
  deriving DecidableEq, Repr

/-- The kind of a scheme. -/
def SchemeKind.of (scheme : String) : SchemeKind :=
  if ["http", "https", "ws", "wss", "ftp"].contains scheme then web
  else if scheme = "file" then file
  else other

/-- A URL. -/
structure Url where
  scheme : String
  host : Option Host := none
  port : Option Nat := none
  /-- The parts of the path between its slashes, in percent notation. -/
  path : List String := []
  query : Option String := none
  fragment : Option String := none
  deriving DecidableEq, Repr

namespace Url

/-- Two capital hexadecimal digits behind a percent sign. -/
def percentByte (b : UInt8) : List Char :=
  '%' :: [(Hex.digit (b.toNat / 16)).toUpper, (Hex.digit (b.toNat % 16)).toUpper]

/-- Writes the characters that fail a test in percent notation. -/
def percentEncode (plain : Char → Bool) (cs : List Char) : List Char :=
  cs.flatMap fun c =>
    if plain c then [c] else (String.singleton c).toUTF8.toList.flatMap percentByte

/-- Characters that stand for themselves in a path. -/
def isPlainInPath (c : Char) : Bool :=
  0x20 < c.toNat && c.toNat < 0x7F &&
    !(['"', '#', '<', '>', '?', '`', '\x7b', '\x7d'].contains c)

/-- Characters that stand for themselves in a query. -/
def isPlainInQuery (c : Char) : Bool :=
  0x20 < c.toNat && c.toNat < 0x7F && !(['"', '#', '<', '>', '\''].contains c)

/-- Characters that stand for themselves in a fragment. -/
def isPlainInFragment (c : Char) : Bool :=
  0x20 < c.toNat && c.toNat < 0x7F && !(['"', '<', '>', '`'].contains c)

/-- The scheme in front of a colon, in small letters, and what follows. -/
def scheme? (cs : List Char) : Option (String × List Char) :=
  let isPart (c : Char) := c.isAlphanum || c == '+' || c == '-' || c == '.'
  match cs.head?, cs.dropWhile isPart with
  | some c, ':' :: r =>
    if c.isAlpha then some (Text.lower (String.ofList (cs.takeWhile isPart)), r) else none
  | _, _ => none

/-- Whether a character separates the parts of a path. -/
def isSlash (kind : SchemeKind) (c : Char) : Bool := c == '/' || (kind != .other && c == '\\')

/-- Whether a character ends the part with the host. -/
def endsAuthority (kind : SchemeKind) (c : Char) : Bool :=
  isSlash kind c || c == '?' || c == '#'

/-- The characters of a host: up to a colon outside of brackets. -/
def hostChars (bracket : Bool) : List Char → List Char
  | [] => []
  | c :: cs =>
    if c == ':' && !bracket then []
    else c :: hostChars (if c == '[' then true else if c == ']' then false else bracket) cs

/-- Reads a port. -/
def readPort (cs : List Char) : Except UrlError (Option Nat) :=
  let ds := cs.takeWhile (· != '\\')
  if ds.isEmpty then .ok none
  else match Text.natIn? 10 ds with
    | some n => if n < 65536 then .ok (some n) else .error .invalidPort
    | none => .error .invalidPort

/-- Reads the host and the port behind two slashes. -/
def authority (kind : SchemeKind) (cs rest : List Char) :
    Except UrlError (Option Host × Option Nat) := do
  let (user, hostPort) := match Text.cutLastList '@' cs with
    | some (u, h) => (some u, h)
    | none => (none, cs)
  if user == some [] && hostPort.isEmpty && !rest.isEmpty then throw .emptyHost
  let hostText := hostChars false hostPort
  let behind := hostPort.drop hostText.length
  if kind = .web then
    if hostText.isEmpty then throw .emptyHost
    let host ← Host.parse hostText
    let port ← readPort (behind.drop 1)
    return (some host, port)
  else
    let host ← Host.parseOpaque hostText
    if hostText.isEmpty then
      if !behind.isEmpty then throw .emptyHost
      if user.any fun u => !u.isEmpty && u != [':'] then throw .emptyHost
      return (none, none)
    else
      let port ← readPort (behind.drop 1)
      return (some host, port)

/-- Whether a part of a path is a single dot. -/
def isDot (s : List Char) : Bool :=
  let t := s.map Char.toLower
  t == ['.'] || t == ['%', '2', 'e']

/-- Whether a part of a path is a double dot. -/
def isDoubleDot (s : List Char) : Bool :=
  [".." , ".%2e", "%2e.", "%2e%2e"].contains (String.ofList (s.map Char.toLower))

/-- Whether a part of a path is a letter with a colon or a bar, which names a drive. -/
def isDrive (s : List Char) : Bool :=
  match s with
  | [a, b] => a.isAlpha && (b == ':' || b == '|')
  | _ => false

/-- Drops the last part of a path; a drive stays. -/
def shorten (path : List (List Char)) : List (List Char) :=
  if path.getLast?.any fun s => isDrive (s.takeWhile (· != '\\')) then path else path.dropLast

/-- A tab or a line end, which no part of a URL holds. -/
def isLayout (c : Char) : Bool := c == '\t' || c == '\n' || c == '\r'

/-- A drive and what follows it in its part of a path, where only tabs or line ends are between. -/
def drivePrefix? (part : List Char) : Option (Char × List Char) :=
  match part.dropWhile isLayout with
  | d :: r =>
    match r.dropWhile isLayout with
    | ':' :: l :: r =>
      let more := r.filter (!isLayout ·)
      if d.isAlpha && isLayout l && !more.isEmpty then some (d, more) else none
    | _ => none
  | [] => none

/-- The parts of a path so far, and whether a file's path has started with a drive. -/
structure PathReading where
  parts : List (List Char) := []
  drive : Bool := false

/-- Adds a part to a path. Dots are resolved; the first part of a file's path may be a drive. -/
def PathReading.add (kind : SchemeKind) (p : PathReading) (part : List Char) (isLast : Bool) :
    PathReading :=
  let s := percentEncode isPlainInPath (part.filter (!isLayout ·))
  let atStart := kind == .file && p.parts.isEmpty
  match if atStart then drivePrefix? part else none with
  | some (d, more) => { p with parts := [[d, ':'], percentEncode isPlainInPath more] }
  | none =>
    if isDoubleDot s || isDot s then
      let parts := if isDoubleDot s then shorten p.parts else p.parts
      { p with parts := if isLast then parts ++ [[]] else parts }
    else if atStart && isDrive s then { parts := [[s.headD ' ', ':']], drive := true }
    else { p with parts := p.parts ++ [s] }

/-- Adds parts to a path. -/
def PathReading.addAll (kind : SchemeKind) : PathReading → List (List Char) → PathReading
  | p, [] => p
  | p, part :: rest => addAll kind (p.add kind part rest.isEmpty) rest

/-- Empty parts in front of a file's path are dropped. -/
def dropEmptyFront : List (List Char) → List (List Char)
  | [] :: s :: rest => dropEmptyFront (s :: rest)
  | path => path

/-- Goes past a slash. -/
def dropSlash (kind : SchemeKind) : List Char → List Char
  | c :: r => if isSlash kind c then r else c :: r
  | [] => []

/-- Reads the parts of a path between its slashes. -/
def readPath (kind : SchemeKind) (cs : List Char) : PathReading :=
  let unified := cs.map fun c => if isSlash kind c then '/' else c
  let p := PathReading.addAll kind {} (Text.splitList '/' unified)
  if kind = .file then { p with parts := dropEmptyFront p.parts } else p

/-- A path with a query and a fragment. -/
structure Resource where
  path : List String
  query : Option String
  fragment : Option String
  drive : Bool

/-- What stands behind the first occurrence of a mark, in percent notation. -/
def behind? (mark : Char) (plain : Char → Bool) (cs : List Char) : Option String :=
  match cs.dropWhile (· != mark) with
  | _ :: r => some (String.ofList (percentEncode plain (r.filter (!isLayout ·))))
  | [] => none

/-- Reads the path, the query and the fragment. -/
def readResource (kind : SchemeKind) (cs : List Char) : Resource :=
  let front := cs.takeWhile (· != '#')
  let p := readPath kind (front.takeWhile (· != '?'))
  ⟨p.parts.map String.ofList, behind? '?' isPlainInQuery front, behind? '#' isPlainInFragment cs,
    p.drive⟩

/-- The host of a file; this machine needs none. -/
def fileHost (cs : List Char) : Except UrlError (Option Host) := do
  if cs.isEmpty then return none
  let host ← Host.parse cs
  return if host = .name "localhost" then none else some host

/-- Reads what follows the scheme of a file. Behind two slashes stands a host, unless a drive stands
there; a drive behind a host takes the host's place. -/
def parseFile (cs : List Char) : Except UrlError Url := do
  let past (cs : List Char) := match cs.dropWhile isLayout with
    | c :: r => if isSlash .file c then some r else none
    | [] => none
  let (host, r) ← match past cs, (past cs).bind past with
    | _, some r =>
      let front := r.takeWhile (!endsAuthority .file ·)
      let name := front.filter (!isLayout ·)
      if isDrive name then pure (none, r)
      else do
        let host ← fileHost name
        let r := r.drop front.length
        pure (host, if host.isSome then dropSlash .file r else r)
    | some r, none => pure (none, r)
    | none, _ => pure (none, cs)
  let x := readResource .file r
  return {
    scheme := "file"
    host := if x.drive then none else host
    path := x.path
    query := x.query
    fragment := x.fragment }

/-- Characters that are dropped from both ends of a text. -/
def isTrimmed (c : Char) : Bool := c.toNat ≤ 0x20

/-- Reads a URL. Tabs and line ends inside of it are dropped. -/
def parse (s : String) : Except UrlError Url := do
  let raw := (s.toList.dropWhile isTrimmed).reverse.dropWhile isTrimmed |>.reverse
  match scheme? (raw.filter (!isLayout ·)) with
  | none => throw .relative
  | some (scheme, r) =>
    match SchemeKind.of scheme, r with
    | .file, _ => parseFile ((raw.dropWhile (· != ':')).drop 1)
    | .web, r => hosted scheme .web (r.dropWhile (isSlash .web))
    | .other, '/' :: '/' :: r => hosted scheme .other r
    | .other, r =>
      return { scheme, path := [String.ofList (r.takeWhile fun c => c != '?' && c != '#')] }
where
  /-- A URL with a host. -/
  hosted (scheme : String) (kind : SchemeKind) (r : List Char) : Except UrlError Url := do
    let front := r.takeWhile (!endsAuthority kind ·)
    let rest := r.drop front.length
    let (host, port) ← authority kind front rest
    let x := readResource kind (dropSlash kind rest)
    return { scheme, host, port, path := x.path, query := x.query, fragment := x.fragment }

/-- The path of a URL with its slashes. -/
def pathText (u : Url) : String := "/" ++ "/".intercalate u.path

/-- A part of a URL behind the mark that starts it. -/
def marked (mark : String) : Option String → String
  | some part => mark ++ part
  | none => ""

/-- The port that goes without saying for a scheme. -/
def knownPort? (scheme : String) : Option Nat :=
  if scheme = "http" ∨ scheme = "ws" then some 80
  else if scheme = "https" ∨ scheme = "wss" then some 443
  else if scheme = "ftp" then some 21
  else none

/-- The text of a URL that has a host. -/
def text (u : Url) : String :=
  let port := u.port.filter fun n => some n ≠ knownPort? u.scheme
  u.scheme ++ "://" ++ marked "" (u.host.map Host.text) ++ marked ":" (port.map Nat.repr) ++
    u.pathText ++ marked "?" u.query ++ marked "#" u.fragment

/-- The place of a file on this machine; nothing if the URL has a host. A drive gets a slash. -/
def filePath? (u : Url) : Option String :=
  if u.host.isSome then none
  else
    let bytes := u.path.flatMap fun p => 47 :: percentDecode p.toUTF8.toList
    let text := Utf8.text bytes
    match text.toList.reverse with
    | m :: d :: _ :: _ =>
      some (if (m == ':' || m == '|') && d.isAlpha then text ++ "/" else text)
    | _ => some text

end Url

end ServiceControl.Net
