import ServiceControl.Number.Decimal
import ServiceControl.Text.Ascii

/-!
# Lexical parts of TOML

Blanks and comments, keys, strings, numbers and dates. Every reader takes characters and returns
what it has read and the rest; a text that none of them reads in full is no TOML.
-/

namespace ServiceControl.Toml

/-- Skips spaces and tabs. -/
def skipBlanks (cs : List Char) : List Char := cs.dropWhile fun c => c == ' ' || c == '\t'

/-- Reads a line end. -/
def lineEnd? : List Char → Option (List Char)
  | '\n' :: r => some r
  | '\r' :: '\n' :: r => some r
  | _ => none

/-- Whether a character may stand in a comment or a literal string: anything but controls. -/
def isShown (c : Char) : Bool := c == '\t' || (0x20 ≤ c.toNat && c.toNat != 0x7F)

/-- Skips a comment up to the line end. -/
def skipComment : List Char → List Char
  | '#' :: r => r.dropWhile isShown
  | cs => cs

/-- Reads blanks, a comment and the end of a line or of the text. -/
def finishLine? (cs : List Char) : Option (List Char) :=
  match skipComment (skipBlanks cs) with
  | [] => some []
  | r => lineEnd? r

/-- Skips blanks, line ends and comments. -/
def skipSpace : Nat → List Char → List Char
  | 0, cs => cs
  | n + 1, cs =>
    match skipBlanks cs with
    | '#' :: r => skipSpace n (skipComment ('#' :: r))
    | r =>
      match lineEnd? r with
      | some r => skipSpace n r
      | none => r

/-- Whether a character may stand in a key without quotes. -/
def isBare (c : Char) : Bool := c.isAlphanum || c == '_' || c == '-'

/-- The character of an escape with a given number of hexadecimal digits. -/
def codePoint? (count : Nat) (cs : List Char) : Option (Char × List Char) := do
  let ds := cs.take count
  if ds.length ≠ count then none
  else
    let n ← Text.natIn? 16 ds
    if n.isValidChar then some (Char.ofNat n, cs.drop count) else none

/-- The character of an escape, behind the backslash. -/
def escape? : List Char → Option (Char × List Char)
  | 'b' :: r => some (Char.ofNat 8, r)
  | 't' :: r => some ('\t', r)
  | 'n' :: r => some ('\n', r)
  | 'f' :: r => some (Char.ofNat 12, r)
  | 'r' :: r => some ('\r', r)
  | '"' :: r => some ('"', r)
  | '\\' :: r => some ('\\', r)
  | 'u' :: r => codePoint? 4 r
  | 'U' :: r => codePoint? 8 r
  | _ => none

/-- Reads a string of one line up to its quote. Only strings in double quotes have escapes. -/
def line? (quote : Char) : Nat → List Char → Option (List Char × List Char)
  | 0, _ => none
  | _ + 1, [] => none
  | n + 1, c :: r =>
    if c = quote then some ([], r)
    else if c = '\\' ∧ quote = '"' then do
      let (x, r) ← escape? r
      let (xs, r) ← line? quote n r
      return (x :: xs, r)
    else if isShown c then do
      let (xs, r) ← line? quote n r
      return (c :: xs, r)
    else none

/-- What a backslash at the end of a line skips: blanks, a line end, and all space behind it. -/
def continued? (cs : List Char) : Option (List Char) := do
  let r ← lineEnd? (skipBlanks cs)
  return r.dropWhile fun c => c == ' ' || c == '\t' || c == '\n' || c == '\r'

/-- Reads a string of several lines up to its three quotes. Up to two more quotes before these
belong to the string. -/
def lines? (quote : Char) : Nat → List Char → Option (List Char × List Char)
  | 0, _ => none
  | _ + 1, [] => none
  | n + 1, c :: r =>
    if c = quote then
      let quotes := (c :: r).takeWhile (· == quote)
      let rest := (c :: r).dropWhile (· == quote)
      if 3 ≤ quotes.length then
        if quotes.length ≤ 5 then some (List.replicate (quotes.length - 3) quote, rest) else none
      else do
        let (xs, r) ← lines? quote n rest
        return (quotes ++ xs, r)
    else if c = '\\' ∧ quote = '"' then
      match continued? r with
      | some r => lines? quote n r
      | none => do
        let (x, r) ← escape? r
        let (xs, r) ← lines? quote n r
        return (x :: xs, r)
    else
      match lineEnd? (c :: r) with
      | some r => do
        let (xs, r) ← lines? quote n r
        return ('\n' :: xs, r)
      | none =>
        if isShown c then do
          let (xs, r) ← lines? quote n r
          return (c :: xs, r)
        else none

/-- Reads a string behind its first quote, of one line or of several. -/
def string? (quote : Char) (cs : List Char) : Option (String × List Char) := do
  let (xs, r) ← match cs with
    | a :: b :: r =>
      if a = quote ∧ b = quote then lines? quote (r.length + 1) ((lineEnd? r).getD r)
      else line? quote (cs.length + 1) cs
    | _ => line? quote (cs.length + 1) cs
  return (String.ofList xs, r)

/-- Reads a part of a key: bare, or a string of one line. -/
def keyPart? : List Char → Option (String × List Char)
  | '"' :: r => (line? '"' (r.length + 1) r).map fun (xs, r) => (String.ofList xs, r)
  | '\'' :: r => (line? '\'' (r.length + 1) r).map fun (xs, r) => (String.ofList xs, r)
  | cs =>
    let part := cs.takeWhile isBare
    if part.isEmpty then none else some (String.ofList part, cs.dropWhile isBare)

/-- The parts of a key at most, and the levels of nested values. -/
def levelLimit : Nat := 79

/-- Reads up to a number of parts with points between them, and blanks around each. -/
def keyParts? : Nat → List Char → Option (List String × List Char)
  | 0, _ => none
  | room + 1, cs => do
    let (part, r) ← keyPart? (skipBlanks cs)
    match skipBlanks r with
    | '.' :: r => do
      let (parts, r) ← keyParts? room r
      return (part :: parts, r)
    | r => return ([part], r)

/-- Reads a key. -/
def key? (cs : List Char) : Option (List String × List Char) := keyParts? levelLimit cs

/-- The digits of a run in which single underscores stand between digits. -/
def digitRun? (isDigit : Char → Bool) : List Char → Option (List Char × List Char)
  | [] => none
  | c :: r =>
    if isDigit c then
      match r with
      | '_' :: r => do
        let (ds, r) ← digitRun? isDigit r
        return (c :: ds, r)
      | r =>
        match digitRun? isDigit r with
        | some (ds, r) => some (c :: ds, r)
        | none => if (r.head?.any isDigit) then none else some ([c], r)
    else none

/-- Reads a run of decimal digits without needless zeros in front. -/
def wholeRun? : List Char → Option (List Char × List Char)
  | '0' :: r => some (['0'], r)
  | cs => digitRun? Char.isDigit cs

/-- Reads a sign. -/
def sign : List Char → Bool × List Char
  | '-' :: r => (true, r)
  | '+' :: r => (false, r)
  | cs => (false, cs)

/-- Reads the digits behind a point, or nothing. -/
def fraction? : List Char → Option (List Char × List Char)
  | '.' :: r => digitRun? Char.isDigit r
  | cs => some ([], cs)

/-- Reads an exponent, or nothing. -/
def exponent? (cs : List Char) : Option (Option Int × List Char) :=
  match cs with
  | e :: r =>
    if e = 'e' ∨ e = 'E' then do
      let (negative, r) := sign r
      let (ds, r) ← digitRun? Char.isDigit r
      let n : Int := Decimal.ofDigits ds
      return (some (if negative then -n else n), r)
    else some (none, cs)
  | [] => some (none, [])

/-- A number. -/
inductive Numeral where
  | int (i : Int)
  | float (x : Binary64)

/-- An integer within 64 bits. -/
def inRange? (i : Int) : Option Numeral :=
  if -2 ^ 63 ≤ i ∧ i < 2 ^ 63 then some (.int i) else none

/-- Reads a natural number in another base behind its sign. -/
def based? (base : Nat) (cs : List Char) : Option (Numeral × List Char) := do
  let (ds, r) ← digitRun? (fun c => (Text.digitIn? base c).isSome) cs
  let n ← Text.natIn? base ds
  return (← inRange? n, r)

/-- Reads a number in base ten. One with a fraction or an exponent is a double, which may not be
above all finite ones. -/
def decimal? (cs : List Char) : Option (Numeral × List Char) := do
  let (negative, r) := sign cs
  let (whole, r) ← wholeRun? r
  let (part, afterPart) ← fraction? r
  let (e, rest) ← exponent? afterPart
  if part.isEmpty ∧ e.isNone then
    let n : Int := Decimal.ofDigits whole
    return (← inRange? (if negative then -n else n), rest)
  else
    let d : Decimal := ⟨negative, Decimal.ofDigits (whole ++ part), e.getD 0 - part.length⟩
    let x := d.toBinary64
    if x = Binary64.infinity then none else return (.float x, rest)

/-- Reads an infinity or what is not a number. -/
def special? (cs : List Char) : Option (Numeral × List Char) :=
  match sign cs with
  | (negative, 'i' :: 'n' :: 'f' :: r) =>
    some (.float (Binary64.ofSignWord negative Binary64.infinityWord), r)
  | (negative, 'n' :: 'a' :: 'n' :: r) =>
    some (.float (Binary64.ofSignWord negative 0x7ff8000000000000), r)
  | _ => none

/-- Reads a number. -/
def numeral? (cs : List Char) : Option (Numeral × List Char) :=
  match cs with
  | '0' :: 'x' :: r => based? 16 r
  | '0' :: 'o' :: r => based? 8 r
  | '0' :: 'b' :: r => based? 2 r
  | cs => (special? cs).or (decimal? cs)

/-- Reads a fixed count of digits as a number within bounds. -/
def fixed? (count lo hi : Nat) (cs : List Char) : Option (Nat × List Char) := do
  let ds := cs.take count
  if ds.length ≠ count then none
  else
    let n ← Text.natIn? 10 ds
    if lo ≤ n ∧ n ≤ hi then some (n, cs.drop count) else none

/-- Reads one given character. -/
def char? (x : Char) : List Char → Option (List Char)
  | [] => none
  | c :: r => if c = x then some r else none

/-- The number of days of a month. -/
def daysOf (year month : Nat) : Nat :=
  if month = 2 then
    if year % 4 = 0 ∧ (year % 100 ≠ 0 ∨ year % 400 = 0) then 29 else 28
  else if month ∈ [4, 6, 9, 11] then 30
  else 31

/-- Reads a date. -/
def date? (cs : List Char) : Option (List Char) := do
  let (year, r) ← fixed? 4 0 9999 cs
  let (month, r) ← fixed? 2 1 12 (← char? '-' r)
  let (_, r) ← fixed? 2 1 (daysOf year month) (← char? '-' r)
  return r

/-- Reads a time; its seconds may have a fraction. -/
def time? (cs : List Char) : Option (List Char) := do
  let (_, r) ← fixed? 2 0 23 cs
  let (_, r) ← fixed? 2 0 59 (← char? ':' r)
  let (_, r) ← fixed? 2 0 60 (← char? ':' r)
  match r with
  | '.' :: r => if r.head?.any Char.isDigit then return r.dropWhile Char.isDigit else none
  | r => return r

/-- Reads an offset from universal time, or nothing. -/
def offset? : List Char → Option (List Char)
  | 'Z' :: r => some r
  | 'z' :: r => some r
  | c :: r =>
    if c = '+' ∨ c = '-' then do
      let (_, r) ← fixed? 2 0 23 r
      let (_, r) ← fixed? 2 0 59 (← char? ':' r)
      return r
    else some (c :: r)
  | [] => some []

/-- Reads a date, a time, or both with an offset. -/
def moment? (cs : List Char) : Option (List Char) :=
  match date? cs with
  | some (c :: r) =>
    if c = 'T' ∨ c = 't' ∨ c = ' ' then
      match time? r with
      | some r => offset? r
      | none => some (c :: r)
    else some (c :: r)
  | some [] => some []
  | none => time? cs

end ServiceControl.Toml
