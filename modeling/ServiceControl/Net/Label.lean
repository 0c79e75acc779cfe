import ServiceControl.Net.NameMapping
import ServiceControl.Net.Punycode
import ServiceControl.Unicode.Composition
import ServiceControl.Unicode.Direction
import ServiceControl.Unicode.Joining
import ServiceControl.Unicode.Mark

/-!
# Labels of names

The parts of a name between its points are labels. A label does not begin with a mark, and joiners
stand in it only where they change how letters are written. An encoded label stands for characters
that obey the same rules and are mapped and composed already. In a name with letters that are
written from right to left, every label has to keep one direction.
-/

namespace ServiceControl.Net

open Unicode

/-- ASCII characters that no name holds: controls, the space, and signs with a meaning in URLs. -/
def isReservedInName (c : Char) : Bool :=
  c.toNat ≤ 0x20 || c.toNat == 0x7F ||
    ['#', '/', ':', '<', '>', '?', '@', '[', '\\', ']', '^', '|', '%'].contains c

/-- Whether a character is of ASCII. -/
def isAscii (c : Char) : Bool := c.toNat < 0x80

/-- The joiner that keeps letters apart. -/
def nonJoiner : Char := '\u200c'

/-- The joiner that puts letters together. -/
def joiner : Char := '\u200d'

/-- Whether every joiner stands behind a mark that takes a vowel, or keeps apart letters that would
join. The characters before the rest are given from the last one. -/
def joinersStand (before : List Char) : List Char → Bool
  | [] => true
  | c :: rest =>
    let stands := match before with
      | [] => false
      | b :: _ =>
        combiningClass b == viramaClass || (c == nonJoiner && joinsBetween before rest)
    ((c != nonJoiner && c != joiner) || stands) && joinersStand (c :: before) rest

/-- The most characters of a label that holds others than ASCII. -/
def longestLabel : Nat := 1000

/-- The most characters of an encoded label behind its mark. -/
def longestEncoded : Nat := 2000

/-- Whether the characters of a label obey its rules. -/
def isLabel (l : List Char) : Bool :=
  !l.head?.any isMark && joinersStand [] l && (l.all isAscii || l.length ≤ longestLabel)

/-- What stands in front of the characters of an encoded label. -/
def encodedMark : List Char := ['x', 'n', '-', '-']

/-- The characters that a label stands for; nothing if it breaks a rule. An encoded label holds
something beyond ASCII, and no further code. -/
def readLabel? (l : List Char) : Option (List Char) :=
  match Text.afterList? encodedMark l with
  | none => if isLabel l then some l else none
  | some cs =>
    if longestEncoded < cs.length || !cs.all isAscii then none
    else match decodeLabel? cs with
      | none => none
      | some out =>
        if !out.all isAscii && mapName? out == some out && compose out == out && isLabel out &&
          (Text.afterList? encodedMark out).isNone then some out
        else none

/-- Whether a direction belongs to what is written from right to left. -/
def isRightToLeft (d : Direction) : Bool :=
  [.rightToLeft, .arabicLetter, .arabicNumber].contains d

/-- Directions that may stand in any label. -/
def weakDirections : List Direction :=
  [.europeanNumber, .europeanSeparator, .commonSeparator, .europeanTerminator, .neutral,
    .boundaryNeutral, .nonspacing]

/-- Whether a label keeps one direction: that of its first letter. It ends with a letter or a digit,
marks aside, and digits of two kinds do not stand in one label. -/
def keepsDirection : List Char → Bool
  | [] => true
  | first :: rest =>
    let tail := (rest.map direction).reverse.dropWhile (· == .nonspacing)
    match direction first with
    | .leftToRight =>
      tail.head?.all [.leftToRight, .europeanNumber].contains &&
        tail.all (.leftToRight :: weakDirections).contains
    | .rightToLeft | .arabicLetter =>
      tail.head?.all [.rightToLeft, .arabicLetter, .europeanNumber, .arabicNumber].contains &&
        tail.all (.rightToLeft :: .arabicLetter :: .arabicNumber :: weakDirections).contains &&
        !(tail.contains .europeanNumber && tail.contains .arabicNumber)
    | _ => false

/-- Whether the labels of a name can stand side by side. -/
def agree (labels : List (List Char)) : Bool :=
  !(labels.any fun l => l.any fun c => isRightToLeft (direction c)) || labels.all keepsDirection

end ServiceControl.Net
