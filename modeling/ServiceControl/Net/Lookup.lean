import ServiceControl.Net.Address
import ServiceControl.Text.Cut

/-!
# Looking hosts up

A host is given by an address or by a name. Addresses are read more freely here than in endpoints:
four numbers may be drawn together from the right and written in three bases, and an address of
eight groups may have a scope. Of names only the own host's is known; for any other well-formed
name nobody answers.
-/

namespace ServiceControl.Net

/-- Reads a whole number: hexadecimal behind `0x`, else octal behind a zero, else decimal. -/
def freeNumber? : List Char → Option Nat
  | '0' :: 'x' :: ds => Text.natIn? 16 ds
  | '0' :: 'X' :: ds => Text.natIn? 16 ds
  | '0' :: ds => Text.natIn? 8 ('0' :: ds)
  | ds => Text.natIn? 10 ds

/-- Reads one to four numbers with points between them. The last one takes the place of all that are
missing. -/
def freeV4? (cs : List Char) : Option (BitVec 32) := do
  let numbers ← (Text.splitList '.' cs).mapM freeNumber?
  let last ← numbers.getLast?
  let front := numbers.dropLast
  if front.length ≤ 3 ∧ front.all (· ≤ 255) ∧ last < 256 ^ (4 - front.length) then
    return BitVec.ofNat 32 (front.foldl (· * 256 + ·) 0 * 256 ^ (4 - front.length) + last)
  else none

/-- Whether an address of eight groups is valid on one link or on one host only. -/
def isLocal (bits : BitVec 128) : Bool :=
  let group := bits.toNat / 2 ^ 112
  group / 64 = 0x3fa || (group / 256 = 0xff && (group % 16 = 1 || group % 16 = 2))

/-- The device that leads back to the host. -/
def ownDevice : String := "lo"

/-- Whether a text is a scope of an address: a number, or a device if the address is local. -/
def isScope (bits : BitVec 128) (scope : List Char) : Bool :=
  (Text.natIn? 10 scope).any (· < 2 ^ 32) || (isLocal bits && String.ofList scope = ownDevice)

/-- Reads an address of eight groups, with a scope behind a percent sign. -/
def scopedV6? (cs : List Char) : Option (BitVec 128) :=
  match v6? cs with
  | some (bits, []) => some bits
  | some (bits, '%' :: scope) => if isScope bits scope then some bits else none
  | _ => none

/-- Takes backslashes out of a name. Behind one stands a character, or three decimal digits for it;
points cannot be written in this way. -/
def unescape? : List Char → Option (List Char)
  | [] => some []
  | ['\\'] => none
  | '\\' :: c :: r =>
    match Text.digit? c, r with
    | none, r => if c = '.' then none else (unescape? r).map (c :: ·)
    | some a, d :: e :: r => do
      let b ← Text.digit? d
      let n := (a * 10 + b) * 10 + (← Text.digit? e)
      if n ≤ 255 ∧ n ≠ '.'.toNat then (unescape? r).map (Char.ofNat n :: ·) else none
    | some _, _ => none
  | c :: r => (unescape? r).map (c :: ·)

/-- Whether a character stands in names of hosts. -/
def isHostChar (c : Char) : Bool := c.isAlphanum || c = '-' || c = '_'

/-- Whether a text is a part of a host's name: one to sixty-three characters. -/
def isHostPart (part : List Char) : Bool :=
  !part.isEmpty && part.length ≤ 63 && part.all isHostChar

/-- The characters of a name at most. -/
def longestHostName : Nat := 253

/-- Whether a text without backslashes is a name of a host. A point may close it, and alone it is
the name of the root. -/
def isHostName (cs : List Char) : Bool :=
  let name := if cs.getLast? = some '.' then cs.dropLast else cs
  cs = ['.'] || (name.head? != some '-' && name.length ≤ longestHostName
    && (Text.splitList '.' name).all isHostPart)

/-- Why no address of a host is known. -/
inductive LookupError where
  /-- The text holds the character that ends texts. -/
  | holdsNul
  /-- The text is no name. -/
  | noName
  /-- Nobody answers for the name. -/
  | unanswered
  deriving DecidableEq, Repr

/-- The wording of a lookup error. -/
def LookupError.message : LookupError → String
  | holdsNul => "file name contained an unexpected NUL byte"
  | noName => "failed to lookup address information: Name or service not known"
  | unanswered => "failed to lookup address information: Temporary failure in name resolution"

/-- The name of the own host, in letters of either case. -/
def ownName : String := "localhost"

/-- The address of the own host. -/
def ownAddress : Address := .v4 0x7f000001#32

/-- Looks a host up. -/
def lookup (host : String) : Except LookupError Address :=
  let cs := host.toList
  if cs.contains '\x00' then .error .holdsNul
  else match freeV4? cs, scopedV6? cs with
    | some bits, _ => .ok (.v4 bits)
    | none, some bits => .ok (.v6 bits)
    | none, none =>
      if Text.SameLetters host ownName then .ok ownAddress
      else if (unescape? cs).any isHostName then .error .unanswered
      else .error .noName

end ServiceControl.Net
