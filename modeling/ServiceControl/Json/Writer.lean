import ServiceControl.Json.Value
import ServiceControl.Number.Shortest
import ServiceControl.Text.Hex

/-!
# Writing JSON

Two layouts: without any blanks, and with one item on a line. Quotes, backslashes and control
characters are escaped, everything else stands as it is. A number that is not finite is written as
null, and so is a fault.
-/

namespace ServiceControl.Json

/-- The characters that stand for one character inside a string. -/
def escaped (c : Char) : List Char :=
  if c = '"' then ['\\', '"']
  else if c = '\\' then ['\\', '\\']
  else if c.toNat = 8 then ['\\', 'b']
  else if c.toNat = 12 then ['\\', 'f']
  else if c = '\n' then ['\\', 'n']
  else if c = '\r' then ['\\', 'r']
  else if c = '\t' then ['\\', 't']
  else if c.toNat < 32 then
    ['\\', 'u', '0', '0', Hex.digit (c.toNat / 16), Hex.digit (c.toNat % 16)]
  else [c]

/-- A text in quotes. -/
def quoted (s : String) : String := String.ofList ('"' :: (s.toList.flatMap escaped ++ ['"']))

/-- A double: the shortest digits, always with a fraction or an exponent. -/
def floatText (x : Binary64) : String := if x.isFinite then Shortest.scientific x else "null"

mutual

/-- The text of a value without blanks. -/
def compact : Json → String
  | .null => "null"
  | .bool b => if b then "true" else "false"
  | .int i => toString i
  | .float x => floatText x
  | .str s => quoted s
  | .arr items => "[" ++ ",".intercalate (compactItems items) ++ "]"
  | .obj fields => "\x7b" ++ ",".intercalate (compactFields fields) ++ "\x7d"
  | .fault => "null"

/-- The texts of items. -/
def compactItems : List Json → List String
  | [] => []
  | j :: r => compact j :: compactItems r

/-- The texts of fields. -/
def compactFields : List (String × Json) → List String
  | [] => []
  | (k, j) :: r => (quoted k ++ ":" ++ compact j) :: compactFields r

end

/-- A line end followed by two blanks for each level. -/
def newLine (level : Nat) : String := "\n" ++ String.ofList (List.replicate (2 * level) ' ')

/-- Lines between two brackets; an empty list keeps the brackets together. -/
def block (level : Nat) (opening closing : String) (lines : List String) : String :=
  if lines.isEmpty then opening ++ closing
  else opening ++ newLine (level + 1) ++ (("," ++ newLine (level + 1)).intercalate lines) ++
    newLine level ++ closing

mutual

/-- The text of a value with one item on a line. -/
def pretty (level : Nat) : Json → String
  | .null => "null"
  | .bool b => if b then "true" else "false"
  | .int i => toString i
  | .float x => floatText x
  | .str s => quoted s
  | .arr items => block level "[" "]" (prettyItems (level + 1) items)
  | .obj fields => block level "\x7b" "\x7d" (prettyFields (level + 1) fields)
  | .fault => "null"

/-- The texts of items on lines of their own. -/
def prettyItems (level : Nat) : List Json → List String
  | [] => []
  | j :: r => pretty level j :: prettyItems level r

/-- The texts of fields on lines of their own. -/
def prettyFields (level : Nat) : List (String × Json) → List String
  | [] => []
  | (k, j) :: r => (quoted k ++ ": " ++ pretty level j) :: prettyFields level r

end

end ServiceControl.Json
