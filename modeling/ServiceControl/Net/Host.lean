import ServiceControl.Net.Address
import ServiceControl.Net.Label

/-!
# Hosts

The host of a URL is an address or a name. Names are decoded from percent notation and brought into
the form in which they are looked up: small letters, plain points, composed characters. A name whose
last part is a number has to be an address of up to four numbers. Hosts of schemes that are not
known are kept as they are, except that some characters are refused.
-/

namespace ServiceControl.Net

/-- Why a text is no URL. -/
inductive UrlError where
  | emptyHost
  | invalidName
  | invalidPort
  | invalidIpv4
  | invalidIpv6
  | invalidCharacter
  | relative
  deriving DecidableEq, Repr

/-- The wording of a URL error. -/
def UrlError.message : UrlError → String
  | emptyHost => "empty host"
  | invalidName => "invalid international domain name"
  | invalidPort => "invalid port number"
  | invalidIpv4 => "invalid IPv4 address"
  | invalidIpv6 => "invalid IPv6 address"
  | invalidCharacter => "invalid domain character"
  | relative => "relative URL without a base"

/-- A host. -/
inductive Host where
  | name (s : String)
  | address (a : Address)
  deriving DecidableEq, Repr

/-- The text of a host; addresses of eight groups stand in brackets. -/
def Host.text : Host → String
  | name s => s
  | address (.v4 bits) => (Address.v4 bits).text
  | address (.v6 bits) => "[" ++ (Address.v6 bits).text ++ "]"

/-- The bytes of a text in percent notation; a percent sign without two digits stands for itself. -/
def percentDecode : List UInt8 → List UInt8
  | 0x25 :: a :: b :: r =>
    match Text.natIn? 16 [Char.ofNat a.toNat, Char.ofNat b.toNat] with
    | some n => UInt8.ofNat n :: percentDecode r
    | none => 0x25 :: percentDecode (a :: b :: r)
  | b :: r => b :: percentDecode r
  | [] => []

/-- Brings a name into the form in which it is looked up: mapped, composed, and with labels that
obey their rules. -/
def foldName? (bytes : List UInt8) : Option String := do
  let s ← String.fromUTF8? bytes.toByteArray
  let cs := Unicode.compose (← mapName? s.toList)
  if cs.any isReservedInName then none
  if agree (← (Text.splitList '.' cs).mapM readLabel?) then return String.ofList cs else none

/-- A part of an address of numbers: decimal, octal behind a zero, or hexadecimal. -/
def addressNumber? (cs : List Char) : Option Nat :=
  match cs with
  | [] => none
  | '0' :: 'x' :: [] | '0' :: 'X' :: [] => some 0
  | '0' :: 'x' :: r | '0' :: 'X' :: r => Text.natIn? 16 r
  | ['0'] => some 0
  | '0' :: r => Text.natIn? 8 r
  | r => Text.natIn? 10 r

/-- Whether the last part of a name, an empty one aside, is a number. -/
def endsInNumber (name : List Char) : Bool :=
  let parts := (Text.splitList '.' name).reverse
  let last := match parts with
    | [] :: l :: _ => l
    | l :: _ => l
    | [] => []
  (!last.isEmpty && last.all Char.isDigit) || (addressNumber? last).isSome

/-- The address of up to four numbers; the last one fills what is left. -/
def addressOfName? (name : List Char) : Option (BitVec 32) := do
  let parts := Text.splitList '.' name
  let parts := if parts.getLast? == some [] then parts.dropLast else parts
  if 4 < parts.length then none
  let numbers ← parts.mapM addressNumber?
  let last ← numbers.getLast?
  let front := numbers.dropLast
  if 256 ^ (4 - front.length) ≤ last || front.any (255 < ·) then none
  let high := front.foldl (fun n x => n * 256 + x) 0
  return BitVec.ofNat 32 (high * 256 ^ (4 - front.length) + last)

/-- An address between brackets. -/
def bracketed (cs : List Char) : Except UrlError Host :=
  match cs.reverse with
  | ']' :: r =>
    match v6? (r.reverse.drop 1) with
    | some (a, []) => .ok (.address (.v6 a))
    | _ => .error .invalidIpv6
  | _ => .error .invalidIpv6

/-- The host of a URL of a known scheme. -/
def Host.parse (cs : List Char) : Except UrlError Host :=
  if cs.head? == some '[' then bracketed cs
  else
    match foldName? (percentDecode (String.ofList cs).toUTF8.toList) with
    | none => .error .invalidName
    | some folded =>
      if folded.isEmpty then .error .emptyHost
      else if endsInNumber folded.toList then
        match addressOfName? folded.toList with
        | some a => .ok (.address (.v4 a))
        | none => .error .invalidIpv4
      else .ok (.name folded)

/-- Characters that the host of an unknown scheme may not hold. -/
def isRefusedInHost (c : Char) : Bool :=
  c.toNat == 0 || [' ', '\t', '\n', '\r', '#', '/', ':', '<', '>', '?', '@', '[', '\\', ']', '^',
    '|'].contains c

/-- The host of a URL of an unknown scheme; it may be empty. -/
def Host.parseOpaque (cs : List Char) : Except UrlError Host :=
  if cs.head? == some '[' then bracketed cs
  else if cs.any isRefusedInHost then .error .invalidCharacter
  else .ok (.name (String.ofList cs))

end ServiceControl.Net
