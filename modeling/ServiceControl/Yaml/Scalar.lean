import ServiceControl.Yaml.Cursor
import ServiceControl.Text.Ascii

/-!
# Scalars in YAML

Plain, quoted and block scalars as they are written. Inside plain and quoted scalars a run of blanks
and line ends is folded: a single line end becomes a space, further ones stay. Block scalars keep or
fold the ends of their lines and drop the indentation.
-/

namespace ServiceControl.Yaml

/-- How a scalar is written. -/
inductive Style where
  | plain
  | singleQuoted
  | doubleQuoted
  | literal
  | folded
  deriving DecidableEq, Repr

/-- A run of blanks and line ends between two parts of a scalar. -/
structure Gap where
  /-- Blanks, if the run stays on one line. -/
  blanks : List Char := []
  /-- Whether the run has left its line. -/
  broken : Bool := false
  /-- The first line end. -/
  first : Option Char := none
  /-- Further line ends. -/
  more : List Char := []

namespace Gap

/-- What a run stands for. -/
def fold (g : Gap) : List Char :=
  if !g.broken then g.blanks
  else if g.first = some '\n' then (if g.more.isEmpty then [' '] else g.more)
  else g.first.toList ++ g.more

/-- Reads blanks and line ends. A tab is refused where it stands in for the indentation of a plain
scalar. -/
def scan (indent : Option Nat) : Nat → Gap → Cursor → Option (Gap × Cursor)
  | 0, g, c => some (g, c)
  | fuel + 1, g, c =>
    if c.next isBlank then
      if g.broken then
        if c.has 0 '\t' && indent.any (c.column < ·) then none
        else scan indent fuel g (c.skip 1)
      else scan indent fuel { g with blanks := g.blanks ++ c.rest.take 1 } (c.skip 1)
    else if c.next isBreak then
      if g.broken then scan indent fuel { g with more := g.more ++ [c.lineEnd] } c.skipLine
      else scan indent fuel { broken := true, first := some c.lineEnd } c.skipLine
    else some (g, c)

end Gap

/-- A scalar that was read, with the cursor behind it. -/
structure Scanned where
  /-- Its content. -/
  text : List Char
  /-- What follows. -/
  after : Cursor
  /-- Whether a line end was passed behind the last character. -/
  broken : Bool := false

/-- The brackets and the comma that end plain scalars inside brackets. -/
def isFlowMark (c : Char) : Bool := c == ',' || c == '[' || c == ']' || c == '\x7b' || c == '\x7d'

/-- The characters of a plain scalar up to a blank, a line end or a mark; a colon before a mark is
refused inside brackets. -/
def plainRun (flow : Bool) : Nat → Cursor → Option (List Char × Cursor)
  | 0, c => some ([], c)
  | fuel + 1, c =>
    match c.at? 0 with
    | none => some ([], c)
    | some x =>
      if isBlank x || isBreak x then some ([], c)
      else if flow && x == ':' && (c.at? 1).any (fun y => isFlowMark y || y == '?') then none
      else if (x == ':' && c.endsWord 1) || (flow && isFlowMark x) then some ([], c)
      else (plainRun flow fuel (c.skip 1)).map fun (xs, c) => (x :: xs, c)

/-- Reads a plain scalar. Outside brackets its further lines are indented. -/
def plainLoop (flow : Bool) (indent : Nat) : Nat → List Char → Gap → Cursor → Option Scanned
  | 0, text, g, c => some ⟨text, c, g.broken⟩
  | fuel + 1, text, g, c =>
    if c.atDocumentMarker || c.has 0 '#' then some ⟨text, c, g.broken⟩
    else do
      let (run, c) ← plainRun flow c.rest.length c
      let (text, g) := if run.isEmpty then (text, g) else (text ++ g.fold ++ run, {})
      if !c.next (fun x => isBlank x || isBreak x) then return ⟨text, c, g.broken⟩
      let (g, c) ← Gap.scan (some indent) c.rest.length g c
      if !flow && c.column < indent then return ⟨text, c, g.broken⟩
      plainLoop flow indent fuel text g c

/-- Reads a plain scalar. -/
def scanPlain (flow : Bool) (indent : Nat) (c : Cursor) : Option Scanned :=
  plainLoop flow indent (c.rest.length + 1) [] {} c

/-- The character of a one-letter escape. -/
def escape? (c : Char) : Option Char :=
  match c with
  | '0' => some (Char.ofNat 0)
  | 'a' => some (Char.ofNat 7)
  | 'b' => some (Char.ofNat 8)
  | 't' => some '\t'
  | '\t' => some '\t'
  | 'n' => some '\n'
  | 'v' => some (Char.ofNat 11)
  | 'f' => some (Char.ofNat 12)
  | 'r' => some '\r'
  | 'e' => some (Char.ofNat 27)
  | ' ' => some ' '
  | '"' => some '"'
  | '/' => some '/'
  | '\\' => some '\\'
  | 'N' => some (Char.ofNat 0x85)
  | '_' => some (Char.ofNat 0xA0)
  | 'L' => some (Char.ofNat 0x2028)
  | 'P' => some (Char.ofNat 0x2029)
  | _ => none

/-- The number of hexadecimal digits behind the letter of an escape. -/
def escapeDigits? (c : Char) : Option Nat :=
  match c with
  | 'x' => some 2
  | 'u' => some 4
  | 'U' => some 8
  | _ => none

/-- Reads an escape behind its backslash: one letter, or a code point in hexadecimal. -/
def scanEscape (c : Cursor) : Option (Char × Cursor) := do
  let x ← c.at? 0
  match escape? x with
  | some y => return (y, c.skip 1)
  | none =>
    let n ← escapeDigits? x
    let ds := (c.rest.drop 1).take n
    let v ← Text.natIn? 16 ds
    if ds.length = n ∧ v.isValidChar then return (Char.ofNat v, c.skip (n + 1)) else none

/-- The characters of a quoted scalar up to a blank, a line end or the closing quote. The flag tells
whether the run ended with an escaped line end. -/
def quotedRun (single : Bool) : Nat → Cursor → Option (List Char × Bool × Cursor)
  | 0, c => some ([], false, c)
  | fuel + 1, c =>
    match c.at? 0 with
    | none => some ([], false, c)
    | some x =>
      if isBlank x || isBreak x then some ([], false, c)
      else if single && x == '\'' && c.has 1 '\'' then
        (quotedRun single fuel (c.skip 2)).map fun (xs, b, c) => (x :: xs, b, c)
      else if x == (if single then '\'' else '"') then some ([], false, c)
      else if !single && x == '\\' then
        if (c.at? 1).any isBreak then some ([], true, (c.skip 1).skipLine)
        else do
          let (y, c) ← scanEscape (c.skip 1)
          let (xs, b, c) ← quotedRun single fuel c
          return (y :: xs, b, c)
      else (quotedRun single fuel (c.skip 1)).map fun (xs, b, c) => (x :: xs, b, c)

/-- Reads a quoted scalar behind its opening quote. -/
def quotedLoop (single : Bool) : Nat → List Char → Cursor → Option Scanned
  | 0, _, _ => none
  | fuel + 1, text, c =>
    if c.atDocumentMarker || c.rest.isEmpty then none
    else do
      let (run, escaped, c) ← quotedRun single c.rest.length c
      let text := text ++ run
      if c.has 0 (if single then '\'' else '"') then return ⟨text, c.skip 1, false⟩
      let (g, c) ← Gap.scan none c.rest.length { broken := escaped } c
      quotedLoop single fuel (text ++ g.fold) c

/-- Reads a quoted scalar from its opening quote. -/
def scanQuoted (single : Bool) (c : Cursor) : Option Scanned :=
  quotedLoop single (c.rest.length + 1) [] (c.skip 1)

/-- What happens to the line ends behind a block scalar. -/
inductive Chomping where
  | strip
  | clip
  | keep
  deriving DecidableEq

/-- Reads the sign that tells about the line ends. -/
def scanChomping (c : Cursor) : Option (Chomping × Cursor) :=
  if c.has 0 '+' then some (.keep, c.skip 1)
  else if c.has 0 '-' then some (.strip, c.skip 1)
  else none

/-- Reads the digit that gives the indentation; it may not be zero. -/
def scanIncrement (c : Cursor) : Option (Option Nat × Cursor) :=
  match (c.at? 0).bind Text.digit? with
  | some 0 => none
  | some n => some (some n, c.skip 1)
  | none => some (none, c)

/-- Reads the sign and the digit of a block scalar in either order. -/
def scanHeader (c : Cursor) : Option (Chomping × Option Nat × Cursor) :=
  match scanChomping c with
  | some (chomping, c) => (scanIncrement c).map fun (n, c) => (chomping, n, c)
  | none => do
    let (n, c) ← scanIncrement c
    match if n.isSome then scanChomping c else none with
    | some (chomping, c) => return (chomping, n, c)
    | none => return (.clip, n, c)

/-- Past blanks, a comment and the end of the line; nothing else may stand there. -/
def skipToNextLine (c : Cursor) : Option Cursor :=
  let c := c.skipWhile isBlank
  let c := if c.has 0 '#' then c.skipWhile (!isBreak ·) else c
  if c.endsLine 0 then some (if c.next isBreak then c.skipLine else c) else none

/-- Reads empty lines and the indentation behind them. Without a given indentation the deepest of
these lines counts. -/
def blockBreaks (indent : Nat) : Nat → Nat → List Char → Cursor → Option (Nat × List Char × Cursor)
  | 0, deepest, breaks, c => some (deepest, breaks, c)
  | fuel + 1, deepest, breaks, c =>
    let spaces := c.rest.takeWhile (· == ' ')
    let n := if indent = 0 then spaces.length else min spaces.length (indent - c.column)
    let c := c.skip n
    let deepest := max deepest c.column
    if (indent = 0 || c.column < indent) && c.has 0 '\t' then none
    else if c.next isBreak then
      blockBreaks indent fuel deepest (breaks ++ [c.lineEnd]) c.skipLine
    else some (deepest, breaks, c)

/-- The state of a block scalar between two lines. -/
structure BlockState where
  text : List Char := []
  /-- The end of the last line. -/
  ending : List Char := []
  /-- The ends of empty lines behind it. -/
  empties : List Char := []
  /-- Whether the last line started with a blank. -/
  blankStart : Bool := false

/-- Reads the lines of a block scalar. -/
def blockLines (isLiteral : Bool) (indent : Nat) :
    Nat → BlockState → Cursor → Option (BlockState × Cursor)
  | 0, s, c => some (s, c)
  | fuel + 1, s, c =>
    if c.column ≠ indent ∨ c.rest.isEmpty then some (s, c)
    else do
      let blank := c.next isBlank
      let joint :=
        if !isLiteral && s.ending == ['\n'] && !s.blankStart && !blank then
          if s.empties.isEmpty then [' '] else []
        else s.ending
      let (line, c) := c.takeWhile (!isBreak ·)
      let text := s.text ++ joint ++ s.empties ++ line
      let (ending, c) := if c.next isBreak then ([c.lineEnd], c.skipLine) else ([], c)
      let (_, empties, c) ← blockBreaks indent c.rest.length 0 [] c
      blockLines isLiteral indent fuel ⟨text, ending, empties, blank⟩ c

/-- Reads a block scalar from its indicator; `parent` is the indentation around it, if any. -/
def scanBlock (isLiteral : Bool) (parent : Option Nat) (c : Cursor) : Option Scanned := do
  let (chomping, increment, c) ← scanHeader (c.skip 1)
  let c ← skipToNextLine c
  let given := (increment.map fun n => parent.getD 0 + n).getD 0
  let (deepest, empties, c) ← blockBreaks given (c.rest.length + 1) 0 [] c
  let least := (parent.map (· + 1)).getD 0
  let indent := if given = 0 then max (max deepest least) 1 else given
  let (s, c) ← blockLines isLiteral indent (c.rest.length + 1) { empties } c
  let text := match chomping with
    | .strip => s.text
    | .clip => s.text ++ s.ending
    | .keep => s.text ++ s.ending ++ s.empties
  return ⟨text, c, false⟩

end ServiceControl.Yaml
