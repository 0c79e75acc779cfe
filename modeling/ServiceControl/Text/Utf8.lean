/-!
# Reading UTF-8 with faults

Bytes that are not UTF-8 can still be shown: each longest beginning of a character that does not go
on is replaced by one replacement character.
-/

namespace ServiceControl.Utf8

/-- The ranges of the bytes that follow a first byte; nothing if no character starts with it. -/
def followers? (b : UInt8) : Option (List (UInt8 × UInt8)) :=
  let any : UInt8 × UInt8 := (0x80, 0xBF)
  if b < 0x80 then some []
  else if b < 0xC2 then none
  else if b < 0xE0 then some [any]
  else if b == 0xE0 then some [(0xA0, 0xBF), any]
  else if b == 0xED then some [(0x80, 0x9F), any]
  else if b < 0xF0 then some [any, any]
  else if b == 0xF0 then some [(0x90, 0xBF), any, any]
  else if b < 0xF4 then some [any, any, any]
  else if b == 0xF4 then some [(0x80, 0x8F), any, any]
  else none

/-- The bytes that lie in the given ranges one after another, and whether all ranges are used. -/
def matching : List (UInt8 × UInt8) → List UInt8 → List UInt8 × Bool
  | [], _ => ([], true)
  | _ :: _, [] => ([], false)
  | (lo, hi) :: rs, b :: bs =>
    if lo ≤ b && b ≤ hi then
      let (taken, whole) := matching rs bs
      (b :: taken, whole)
    else ([], false)

/-- The code point of a first byte and the bytes that follow it. -/
def codePoint (b : UInt8) (following : List UInt8) : Nat :=
  let first := match following.length with
    | 0 => b.toNat
    | 1 => b.toNat % 32
    | 2 => b.toNat % 16
    | _ => b.toNat % 8
  following.foldl (fun n x => n * 64 + x.toNat % 64) first

/-- The characters of bytes, faults replaced. -/
def decode : Nat → List UInt8 → List Char
  | 0, _ => []
  | _ + 1, [] => []
  | fuel + 1, b :: bs =>
    match followers? b with
    | none => Char.ofNat 0xFFFD :: decode fuel bs
    | some ranges =>
      let (taken, whole) := matching ranges bs
      let c := if whole then codePoint b taken else 0xFFFD
      Char.ofNat c :: decode fuel (bs.drop taken.length)

/-- The text of bytes, faults replaced. -/
def text (bs : List UInt8) : String := String.ofList (decode bs.length bs)

end ServiceControl.Utf8
