import ServiceControl.Yaml.Scalar

/-!
# YAML tokens

A text is cut into tokens. Indentation opens and closes block collections, and a scalar, an alias
or a bracket may turn out to be a key only when its colon is reached: then a key token, and if need
be the start of a block mapping, is put in front of it. Such a key lies on one line and is at most
1024 characters long.
-/

namespace ServiceControl.Yaml

/-- The parts of a YAML text. -/
inductive Token where
  | versionDirective (major minor : Nat)
  | tagDirective (handle uri : String)
  | documentStart
  | documentEnd
  | blockSequenceStart
  | blockMappingStart
  | blockEnd
  | flowSequenceStart
  | flowSequenceEnd
  | flowMappingStart
  | flowMappingEnd
  | blockEntry
  | flowEntry
  | key
  | value
  | alias (name : String)
  | anchor (name : String)
  | tag (handle suffix : String)
  | scalar (text : String) (style : Style)
  deriving DecidableEq, Repr

/-- A token that may become a key. -/
structure PossibleKey where
  /-- Whether it stands where only a key may stand. -/
  required : Bool
  /-- Where the key token would be put. -/
  position : Nat
  index : Nat
  line : Nat
  column : Nat

/-- The state of cutting a text into tokens. -/
structure Scanner where
  cursor : Cursor
  /-- Tokens so far. -/
  tokens : Array Token := #[]
  /-- Columns of the open block collections, innermost first. -/
  indents : List Nat := []
  /-- For each open bracket, and for the outside last, the token that may become a key. -/
  keys : List (Option PossibleKey) := [none]
  /-- Whether a key may start here. -/
  keyAllowed : Bool := true

namespace Scanner

/-- Whether a bracket is open. -/
def inFlow (s : Scanner) : Bool := 1 < s.keys.length

/-- The column of the innermost block collection. -/
def indent? (s : Scanner) : Option Nat := s.indents.head?

/-- Appends a token. -/
def push (s : Scanner) (t : Token) : Scanner := { s with tokens := s.tokens.push t }

/-- Appends a token and goes past its characters. -/
def pushSkip (s : Scanner) (t : Token) (n : Nat) : Scanner :=
  { s with tokens := s.tokens.push t, cursor := s.cursor.skip n }

/-- Puts a token at a position. -/
def insertAt (s : Scanner) (position : Nat) (t : Token) : Scanner :=
  { s with tokens := s.tokens.insertIdxIfInBounds position t }

/-- Opens a block collection at a column that is deeper than the current one. -/
def roll (s : Scanner) (column position : Nat) (t : Token) : Scanner :=
  if s.inFlow || s.indent?.any (column ≤ ·) then s
  else { s with indents := column :: s.indents }.insertAt position t

/-- Closes the block collections that are deeper than a column, or all of them. -/
def unrollList (column : Option Nat) : List Nat → Array Token → List Nat × Array Token
  | [], ts => ([], ts)
  | i :: is, ts =>
    if column.all (· < i) then unrollList column is (ts.push .blockEnd) else (i :: is, ts)

/-- Closes the block collections that are deeper than a column; brackets ignore indentation. -/
def unroll (s : Scanner) (column : Option Nat) : Scanner :=
  if s.inFlow then s
  else
    let (indents, tokens) := unrollList column s.indents s.tokens
    { s with indents, tokens }

/-- Whether a token is still near enough to become a key. -/
def isFresh (s : Scanner) (k : PossibleKey) : Bool :=
  s.cursor.line ≤ k.line && s.cursor.index ≤ k.index + 1024

/-- Gives up the tokens that are too far away to become keys; one that had to be
a key is refused. -/
def dropStale (s : Scanner) : Option Scanner :=
  if s.keys.any (fun k => k.any fun k => !s.isFresh k && k.required) then none
  else some { s with keys := s.keys.map (·.filter s.isFresh) }

/-- Gives up the token that might have become a key at this level. -/
def removeKey (s : Scanner) : Option Scanner :=
  match s.keys with
  | some k :: r => if k.required then none else some { s with keys := none :: r }
  | _ => some s

/-- Notes that the next token may become a key, where one may start. -/
def saveKey (s : Scanner) : Option Scanner :=
  if s.keyAllowed then do
    let s ← s.removeKey
    let k : PossibleKey := {
      required := !s.inFlow && s.indent? == some s.cursor.column
      position := s.tokens.size, index := s.cursor.index, line := s.cursor.line
      column := s.cursor.column }
    return { s with keys := some k :: s.keys.tail }
  else some s

/-- A character that may stand in front of any line and takes a column there. -/
def byteOrderMark : Char := '\ufeff'

/-- Past blanks, comments and line ends. Tabs count as blanks only where no key may start. -/
def skipToToken : Nat → Scanner → Scanner
  | 0, s => s
  | fuel + 1, s =>
    let c := s.cursor
    let c := if c.column == 0 && c.has 0 byteOrderMark then c.skip 1 else c
    let tabs := s.inFlow || !s.keyAllowed
    let c := c.skipWhile fun x => x == ' ' || (tabs && x == '\t')
    let c := if c.has 0 '#' then c.skipWhile (!isBreak ·) else c
    if c.next isBreak then
      skipToToken fuel { s with cursor := c.skipLine, keyAllowed := s.keyAllowed || !s.inFlow }
    else { s with cursor := c }

/-- The characters of a URI besides letters, digits, underscores and hyphens. -/
def uriMarks (brackets : Bool) : List Char :=
  [';', '/', '?', ':', '@', '&', '=', '+', '$', '.', '%', '!', '~', '*', '\'', '(', ')'] ++
    (if brackets then [',', '[', ']'] else [])

/-- Reads one byte written as a percent sign and two digits. -/
def uriByte? (cs : List Char) : Option (UInt8 × List Char) :=
  match cs with
  | '%' :: a :: b :: r => (Text.natIn? 16 [a, b]).map fun n => (n.toUInt8, r)
  | _ => none

/-- Reads some bytes written with percent signs. -/
def uriBytes? : Nat → List Char → Option (List UInt8 × List Char)
  | 0, cs => some ([], cs)
  | n + 1, cs => do
    let (b, cs) ← uriByte? cs
    let (bs, cs) ← uriBytes? n cs
    return (b :: bs, cs)

/-- Reads one character whose UTF-8 bytes are written with percent signs. -/
def uriEscape? (cs : List Char) : Option (List Char × List Char) := do
  let (b, _) ← uriByte? cs
  let width := if b < 0x80 then 1 else if b < 0xC0 then 0 else if b < 0xE0 then 2
    else if b < 0xF0 then 3 else if b < 0xF8 then 4 else 0
  if width = 0 then none
  else
    let (bs, r) ← uriBytes? width cs
    let s ← String.fromUTF8? bs.toByteArray
    return (s.toList, r)

/-- Reads the characters of a URI. -/
def uriChars (brackets : Bool) : Nat → List Char → Option (List Char × List Char)
  | 0, cs => some ([], cs)
  | _ + 1, [] => some ([], [])
  | fuel + 1, c :: cs =>
    if c == '%' then do
      let (x, r) ← uriEscape? (c :: cs)
      let (xs, r) ← uriChars brackets fuel r
      return (x ++ xs, r)
    else if isWord c || (uriMarks brackets).contains c then
      (uriChars brackets fuel cs).map fun (xs, r) => (c :: xs, r)
    else some ([], c :: cs)

/-- Reads a URI that starts with the given characters; it may not be empty. -/
def scanUri (brackets : Bool) (start : List Char) (c : Cursor) : Option (List Char × Cursor) := do
  let (cs, r) ← uriChars brackets c.rest.length c.rest
  if start.isEmpty && cs.isEmpty then none
  else return (start.drop 1 ++ cs, c.skip (c.rest.length - r.length))

/-- Reads a tag handle: an exclamation mark, or a word between two. -/
def scanHandle (c : Cursor) : Option (List Char × Cursor) :=
  if c.has 0 '!' then
    let (w, c) := (c.skip 1).takeWhile isWord
    if c.has 0 '!' then some ('!' :: (w ++ ['!']), c.skip 1) else some ('!' :: w, c)
  else none

/-- Reads a tag: verbatim between angle brackets, or a handle and a suffix. A lone exclamation mark
is a suffix without a handle. -/
def scanTag (inFlow : Bool) (c : Cursor) : Option (Token × Cursor) := do
  let (handle, suffix, c) ←
    if c.has 1 '<' then do
      let (uri, c) ← scanUri true [] (c.skip 2)
      if c.has 0 '>' then pure ([], uri, c.skip 1) else none
    else do
      let (handle, c) ← scanHandle c
      if 1 < handle.length && handle.getLast? == some '!' then do
        let (suffix, c) ← scanUri false [] c
        pure (handle, suffix, c)
      else do
        let (suffix, c) ← scanUri false handle c
        pure (if suffix.isEmpty then ([], ['!'], c) else (['!'], suffix, c))
  if c.endsWord 0 || (inFlow && c.has 0 ',') then
    return (.tag (String.ofList handle) (String.ofList suffix), c)
  else none

/-- Reads the name of an anchor or an alias. -/
def scanName (c : Cursor) : Option (String × Cursor) :=
  let (w, c) := (c.skip 1).takeWhile isWord
  let ends := c.endsWord 0 || c.next fun x =>
    x == '?' || x == ':' || x == ',' || x == ']' || x == '\x7d' || x == '%' || x == '@' || x == '`'
  if w.isEmpty || !ends then none else some (String.ofList w, c)

/-- Reads a version number of at most nine digits. -/
def scanVersionNumber (c : Cursor) : Option (Nat × Cursor) :=
  let (ds, c) := c.takeWhile Char.isDigit
  if 9 < ds.length then none else (Text.natIn? 10 ds).map (·, c)

/-- Reads a directive from its percent sign to the end of its line. -/
def scanDirective (c : Cursor) : Option (Token × Cursor) := do
  let (name, c) := (c.skip 1).takeWhile isWord
  if name.isEmpty || !c.endsWord 0 then none
  else
    let (t, c) ←
      if String.ofList name = "YAML" then do
        let (major, c) ← scanVersionNumber (c.skipWhile isBlank)
        if !c.has 0 '.' then none
        let (minor, c) ← scanVersionNumber (c.skip 1)
        pure (.versionDirective major minor, c)
      else if String.ofList name = "TAG" then do
        let (handle, c) ← scanHandle (c.skipWhile isBlank)
        if handle ≠ ['!'] ∧ handle.getLast? ≠ some '!' then none
        if !c.next isBlank then none
        let (uri, c) ← scanUri true [] (c.skipWhile isBlank)
        if !c.endsWord 0 then none
        pure (Token.tagDirective (String.ofList handle) (String.ofList uri), c)
      else none
    let c ← skipToNextLine c
    return (t, c)

/-- The document marker or directive at the start of a line. -/
def fetchMarker (s : Scanner) (read : Cursor → Option (Token × Cursor)) : Option Scanner := do
  let s ← (s.unroll none).removeKey
  let (t, c) ← read s.cursor
  return { s.push t with cursor := c, keyAllowed := false }

/-- A token that may become a key and behind which none may start. -/
def fetchKeyLike (s : Scanner) (read : Cursor → Option (Token × Cursor)) : Option Scanner := do
  let s ← s.saveKey
  let (t, c) ← read s.cursor
  return { s.push t with cursor := c, keyAllowed := false }

/-- An opening bracket. -/
def fetchOpen (s : Scanner) (t : Token) : Option Scanner := do
  let s ← s.saveKey
  return { s.pushSkip t 1 with keys := none :: s.keys, keyAllowed := true }

/-- A closing bracket. -/
def fetchClose (s : Scanner) (t : Token) : Option Scanner := do
  let s ← s.removeKey
  let keys := if s.inFlow then s.keys.tail else s.keys
  return { s.pushSkip t 1 with keys, keyAllowed := false }

/-- A comma. -/
def fetchFlowEntry (s : Scanner) : Option Scanner := do
  let s ← s.removeKey
  return { s.pushSkip .flowEntry 1 with keyAllowed := true }

/-- A hyphen that starts an item. -/
def fetchBlockEntry (s : Scanner) : Option Scanner := do
  if !s.inFlow && !s.keyAllowed then none
  let s := s.roll s.cursor.column s.tokens.size .blockSequenceStart
  let s ← s.removeKey
  return { s.pushSkip .blockEntry 1 with keyAllowed := true }

/-- A question mark that starts a key. -/
def fetchKey (s : Scanner) : Option Scanner := do
  if !s.inFlow && !s.keyAllowed then none
  let s := s.roll s.cursor.column s.tokens.size .blockMappingStart
  let s ← s.removeKey
  return { s.pushSkip .key 1 with keyAllowed := !s.inFlow }

/-- A colon: what stands before it on its line becomes a key. -/
def fetchValue (s : Scanner) : Option Scanner :=
  match s.keys with
  | some k :: r =>
    let s := s.insertAt k.position .key
    let s := s.roll k.column k.position .blockMappingStart
    some { s.pushSkip .value 1 with keys := none :: r, keyAllowed := false }
  | _ => do
    if !s.inFlow && !s.keyAllowed then none
    let s := s.roll s.cursor.column s.tokens.size .blockMappingStart
    return { s.pushSkip .value 1 with keyAllowed := !s.inFlow }

/-- A block scalar. -/
def fetchBlockScalar (s : Scanner) (isLiteral : Bool) : Option Scanner := do
  let s ← s.removeKey
  let r ← scanBlock isLiteral s.indent? s.cursor
  let t := Token.scalar (String.ofList r.text) (if isLiteral then .literal else .folded)
  return { s.push t with cursor := r.after, keyAllowed := true }

/-- A quoted scalar. -/
def fetchQuoted (s : Scanner) (single : Bool) : Option Scanner :=
  s.fetchKeyLike fun c => (scanQuoted single c).map fun r =>
    (.scalar (String.ofList r.text) (if single then .singleQuoted else .doubleQuoted), r.after)

/-- A plain scalar. -/
def fetchPlain (s : Scanner) : Option Scanner := do
  let s ← s.saveKey
  let r ← scanPlain s.inFlow ((s.indent?.map (· + 1)).getD 0) s.cursor
  return { s.push (.scalar (String.ofList r.text) .plain) with
    cursor := r.after, keyAllowed := r.broken }

/-- Characters that start no plain scalar. -/
def indicators : List Char :=
  ['-', '?', ':', ',', '[', ']', '\x7b', '\x7d', '#', '&', '*', '!', '|', '>', '\'', '"', '%', '@',
    '`']

/-- Whether a plain scalar starts here: a hyphen, question mark or colon may start one if something
follows it. -/
def startsPlain (inFlow : Bool) (c : Cursor) (x : Char) : Bool :=
  (!isBlank x && !isBreak x && !indicators.contains x) ||
    (x == '-' && !(c.at? 1).any isBlank) ||
    (!inFlow && (x == '?' || x == ':') && !c.endsWord 1)

/-- Reads the token that starts with a character. -/
def fetch (s : Scanner) (x : Char) : Option Scanner :=
  let c := s.cursor
  if c.column == 0 && x == '%' then s.fetchMarker scanDirective
  else if c.atMarker '-' then s.fetchMarker fun c => some (.documentStart, c.skip 3)
  else if c.atMarker '.' then s.fetchMarker fun c => some (.documentEnd, c.skip 3)
  else if x == '[' then s.fetchOpen .flowSequenceStart
  else if x == '\x7b' then s.fetchOpen .flowMappingStart
  else if x == ']' then s.fetchClose .flowSequenceEnd
  else if x == '\x7d' then s.fetchClose .flowMappingEnd
  else if x == ',' then s.fetchFlowEntry
  else if x == '-' && c.endsWord 1 then s.fetchBlockEntry
  else if x == '?' && (s.inFlow || c.endsWord 1) then s.fetchKey
  else if x == ':' && (s.inFlow || c.endsWord 1) then s.fetchValue
  else if x == '*' then s.fetchKeyLike fun c => (scanName c).map fun (n, c) => (.alias n, c)
  else if x == '&' then s.fetchKeyLike fun c => (scanName c).map fun (n, c) => (.anchor n, c)
  else if x == '!' then s.fetchKeyLike (scanTag s.inFlow)
  else if x == '|' && !s.inFlow then s.fetchBlockScalar true
  else if x == '>' && !s.inFlow then s.fetchBlockScalar false
  else if x == '\'' then s.fetchQuoted true
  else if x == '"' then s.fetchQuoted false
  else if startsPlain s.inFlow c x then s.fetchPlain
  else none

/-- Cuts a text into tokens up to its end. -/
def run : Nat → Scanner → Option (Array Token)
  | 0, _ => none
  | fuel + 1, s => do
    let s ← (skipToToken (s.cursor.rest.length + 1) s).dropStale
    match s.cursor.at? 0 with
    | none =>
      let s ← (s.unroll none).removeKey
      return s.tokens
    | some x => run fuel (← (s.unroll (some s.cursor.column)).fetch x)

end Scanner

/-- The tokens of a text. -/
def tokens? (text : String) : Option (Array Token) :=
  let cs := text.toList
  if cs.all isPrintable then Scanner.run (cs.length + 1) { cursor := { rest := cs } } else none

end ServiceControl.Yaml
