/-!
# Positions in a YAML text

A cursor is what is left of a text with the line and the column where it starts. Line ends
are line feeds, carriage returns, both in this order, next-line characters, and line and
paragraph separators.
-/

namespace ServiceControl.Yaml

/-- The rest of a text and its position. -/
structure Cursor where
  /-- What is left. -/
  rest : List Char
  /-- Characters before it. -/
  index : Nat := 0
  /-- Lines before it. -/
  line : Nat := 0
  /-- Characters before it on its line. -/
  column : Nat := 0

/-- A line end. -/
def isBreak (c : Char) : Bool :=
  c == '\n' || c == '\r' || c.toNat == 0x85 || c.toNat == 0x2028 || c.toNat == 0x2029

/-- A space or a tab. -/
def isBlank (c : Char) : Bool := c == ' ' || c == '\t'

/-- A character that names of anchors, handles and directives are made of. -/
def isWord (c : Char) : Bool := c.isAlphanum || c == '_' || c == '-'

/-- A character that a YAML text may hold. -/
def isPrintable (c : Char) : Bool :=
  let n := c.toNat
  n == 9 || n == 10 || n == 13 || (0x20 ≤ n && n ≤ 0x7E) || n == 0x85 ||
    (0xA0 ≤ n && n ≤ 0xD7FF) || (0xE000 ≤ n && n ≤ 0xFFFD) || 0x10000 ≤ n

namespace Cursor

/-- The character some places ahead. -/
def at? (c : Cursor) (n : Nat) : Option Char := c.rest[n]?

/-- Whether the character some places ahead is the given one. -/
def has (c : Cursor) (n : Nat) (x : Char) : Bool := c.at? n == some x

/-- Whether a test holds of the next character. -/
def next (c : Cursor) (p : Char → Bool) : Bool := (c.at? 0).any p

/-- Whether the text or the line ends some places ahead. -/
def endsLine (c : Cursor) (n : Nat) : Bool := (c.at? n).all isBreak

/-- Whether the text ends or a blank or line end stands some places ahead. -/
def endsWord (c : Cursor) (n : Nat) : Bool := (c.at? n).all fun x => isBlank x || isBreak x

/-- Past some characters of the same line. -/
def skip (c : Cursor) (n : Nat) : Cursor :=
  { c with rest := c.rest.drop n, index := c.index + n, column := c.column + n }

/-- Past a line end. -/
def skipLine (c : Cursor) : Cursor :=
  let n := if c.has 0 '\r' && c.has 1 '\n' then 2 else 1
  { rest := c.rest.drop n, index := c.index + n, line := c.line + 1, column := 0 }

/-- The character that a line end contributes to a scalar: separators stay, all others are line
feeds. -/
def lineEnd (c : Cursor) : Char :=
  match c.at? 0 with
  | some x => if x.toNat == 0x2028 || x.toNat == 0x2029 then x else '\n'
  | none => '\n'

/-- The characters up to the first that fails a test, and the cursor behind them. -/
def takeWhile (c : Cursor) (p : Char → Bool) : List Char × Cursor :=
  let cs := c.rest.takeWhile p
  (cs, c.skip cs.length)

/-- Past the characters of the line that satisfy a test. -/
def skipWhile (c : Cursor) (p : Char → Bool) : Cursor := (c.takeWhile p).2

/-- Whether a document marker of three equal characters starts the line. -/
def atMarker (c : Cursor) (x : Char) : Bool :=
  c.column == 0 && c.has 0 x && c.has 1 x && c.has 2 x && c.endsWord 3

/-- Whether a document starts or ends here. -/
def atDocumentMarker (c : Cursor) : Bool := c.atMarker '-' || c.atMarker '.'

end Cursor

end ServiceControl.Yaml
