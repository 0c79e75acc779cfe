import ServiceControl.Text.Cut

/-!
# Request targets

What a request line asks for: a path on the server with an optional query, a whole address, a host
alone, or the server as a whole. A fragment is dropped when the target is read.
-/

namespace ServiceControl.Http

/-- What a request asks for. -/
inductive Target where
  /-- A path that starts with a slash. -/
  | origin (path : String) (query : Option String)
  /-- A scheme and a host in front of a path that may be empty. -/
  | absolute (scheme host path : String) (query : Option String)
  /-- A host alone. -/
  | authority (host : String)
  /-- The server as a whole. -/
  | asterisk
  deriving DecidableEq, Repr

namespace Target

/-- The path; that of a whole address is at least a slash, a host alone has none. -/
def path : Target → String
  | origin path _ => path
  | absolute _ _ path _ => if path = "" then "/" else path
  | authority _ => ""
  | asterisk => "*"

/-- A query behind its question mark. -/
def queryText : Option String → String
  | some q => "?" ++ q
  | none => ""

/-- The target as it is shown. -/
def text : Target → String
  | origin path query => path ++ queryText query
  | absolute scheme host path query =>
    scheme ++ "://" ++ host ++ (if path = "" then "/" else path) ++ queryText query
  | authority host => host
  | asterisk => "*"

/-- The longest target in bytes. -/
def maxLength : Nat := 65534

/-- Characters of a path. Some that belong in percent notation are let through. -/
def isInPath (c : Char) : Bool :=
  0x20 < c.toNat && !(['#', '<', '>', '?', '`'].contains c)

/-- Characters of a query. -/
def isInQuery (c : Char) : Bool :=
  0x20 < c.toNat && !(['"', '#', '<', '>'].contains c)

/-- Characters of a host with its user and port, apart from those with a meaning of their own. -/
def isInAuthority (c : Char) : Bool :=
  c.isAlphanum || "!$&'()*+,-.;=_~".toList.contains c

/-- Characters of a scheme. -/
def isInScheme (c : Char) : Bool := c.isAlphanum || ['+', '-', '.', '~'].contains c

/-- What was seen of a host with its user and port. -/
structure AuthorityScan where
  colons : Nat := 0
  opened : Bool := false
  closed : Bool := false
  hasPercent : Bool := false
  /-- Whether the last character was an at sign. -/
  endsUser : Bool := false

/-- Takes in a character. What precedes an at sign or stands in brackets may hold colons and percent
signs. -/
def AuthorityScan.step (s : AuthorityScan) (c : Char) : Option AuthorityScan :=
  let s := { s with endsUser := c == '@' }
  if c = ':' then if s.colons < 8 then some { s with colons := s.colons + 1 } else none
  else if c = '[' then if s.hasPercent || s.opened then none else some { s with opened := true }
  else if c = ']' then
    if !s.opened || s.closed then none
    else some { s with closed := true, colons := 0, hasPercent := false }
  else if c = '@' then some { s with colons := 0, hasPercent := false }
  else if c = '%' then some { s with hasPercent := true }
  else if isInAuthority c then some s
  else none

/-- Whether a text is a host with an optional user and port. -/
def isAuthority (cs : List Char) : Bool :=
  match cs.foldlM AuthorityScan.step {} with
  | some s => s.opened == s.closed && s.colons ≤ 1 && !s.endsUser && !s.hasPercent
  | none => false

/-- Whether a character ends a host. -/
def endsAuthority (c : Char) : Bool := c == '/' || c == '?' || c == '#'

/-- The scheme in front of a colon and two slashes, and what follows. -/
def scheme? (cs : List Char) : Option (List Char × List Char) :=
  match cs.dropWhile isInScheme with
  | ':' :: '/' :: '/' :: rest => some (cs.takeWhile isInScheme, rest)
  | _ => none

/-- Schemes of the web are shown in small letters. -/
def shownScheme (scheme : String) : String :=
  let small := scheme.map Char.toLower
  if small = "http" ∨ small = "https" then small else scheme

/-- The longest scheme. -/
def maxScheme : Nat := 64

/-- Reads a path and a query. -/
def pathAndQuery? (cs : List Char) : Option (String × Option String) :=
  let path := cs.takeWhile fun c => c != '?' && c != '#'
  if !path.all isInPath then none
  else match cs.drop path.length with
    | '?' :: r =>
      let query := r.takeWhile (· != '#')
      if query.all isInQuery then some (String.ofList path, some (String.ofList query)) else none
    | _ => some (String.ofList path, none)

/-- Reads what follows a scheme. -/
def absolute? (scheme rest : List Char) : Option Target := do
  let host := rest.takeWhile (!endsAuthority ·)
  if maxScheme < scheme.length || host.isEmpty || !isAuthority host then none
  else
    let (path, query) ← pathAndQuery? (rest.drop host.length)
    return .absolute (shownScheme (String.ofList scheme)) (String.ofList host) path query

/-- Reads a target. -/
def parse? (s : String) : Option Target :=
  if maxLength < s.utf8ByteSize then none
  else match s.toList with
    | [] => none
    | ['*'] => some .asterisk
    | '/' :: r => (pathAndQuery? ('/' :: r)).map fun (path, query) => .origin path query
    | cs => match scheme? cs with
      | some (scheme, rest) => absolute? scheme rest
      | none => if isAuthority cs then some (.authority s) else none

end Target

end ServiceControl.Http
