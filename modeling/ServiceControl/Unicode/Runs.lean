import ServiceControl.Text.Ascii
import ServiceControl.Text.Cut

/-!
# Runs of code points

A property of characters is a table of runs: code points from a first to a last one that share a
value. Tables are written as texts, one entry behind another, in ascending order and in hexadecimal
digits: `41-5a` is a run of capital letters, `5f` one character, and what stands behind a colon is
the value. A character is looked up by halving. All tables follow version 17 of the standard.
-/

namespace ServiceControl.Unicode

/-- Code points from a first to a last one, and what they share. -/
structure Run (α : Type) where
  first : Nat
  last : Nat
  value : α

/-- The run with a code point, among those whose places are at least `lo` and below `hi`. -/
def seek (runs : Array (Run α)) (n lo hi : Nat) : Option (Run α) :=
  if lo < hi then
    match runs[(lo + hi) / 2]? with
    | none => none
    | some r =>
      if n < r.first then seek runs n lo ((lo + hi) / 2)
      else if r.last < n then seek runs n ((lo + hi) / 2 + 1) hi
      else some r
  else none
termination_by hi - lo

/-- The value of a character in a table. -/
def lookUp (runs : Array (Run α)) (c : Char) : Option α :=
  (seek runs c.toNat 0 runs.size).map Run.value

/-- Reads an entry of a table. -/
def readRun (value : List Char → Option α) (entry : List Char) : Option (Run α) := do
  let (span, behind) := match Text.cutList [':'] entry with
    | some (s, v) => (s, v)
    | none => (entry, [])
  let (first, last) := match Text.cutList ['-'] span with
    | some (a, b) => (a, b)
    | none => (span, span)
  return ⟨← Text.natIn? 16 first, ← Text.natIn? 16 last, ← value behind⟩

/-- The words of a text with blanks and line ends between them. The characters of the word that is
being read and the words before it are given from the last one. -/
def words (word : List Char) (before : List (List Char)) : List Char → List (List Char)
  | [] => (word.reverse :: before).reverse
  | c :: r =>
    if c = ' ' || c = '\n' then words [] (word.reverse :: before) r else words (c :: word) before r

/-- Reads a table. -/
def readRuns (value : List Char → Option α) (table : String) : Array (Run α) :=
  ((words [] [] table.toList).filterMap (readRun value)).toArray

/-- A set of characters. -/
abbrev CharSet := Array (Run Unit)

/-- Reads a set of characters. -/
def CharSet.read (table : String) : CharSet := readRuns (fun _ => some ()) table

/-- Whether a character is in a set. -/
def CharSet.contains (s : CharSet) (c : Char) : Bool := (lookUp s c).isSome

end ServiceControl.Unicode
