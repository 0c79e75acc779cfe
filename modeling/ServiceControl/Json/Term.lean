import ServiceControl.Json.Numeral
import ServiceControl.Json.Value
import ServiceControl.Text.Ascii

/-!
# JSON terms

The form of a JSON text, before anything in it is given a value. Strings are sequences of bytes and
escaped code units, numerals are digits. A term becomes a value when it is read: that is where text
has to be Unicode, numbers in range and nesting limited.
-/

namespace ServiceControl.Json

/-- One part of a string: a byte as it stands, or a code unit that was written as an escape. -/
inductive Piece where
  | byte (b : UInt8)
  | unit (n : Nat)
  deriving Repr

/-- The form of a JSON text. -/
inductive Term where
  | null
  | bool (b : Bool)
  | number (n : Numeral)
  | str (pieces : List Piece)
  | arr (items : List Term)
  | obj (fields : List (List Piece × Term))
  deriving Repr, Inhabited

namespace Term

/-- Skips spaces, tabs and line ends. -/
def skipBlanks (bs : List UInt8) : List UInt8 :=
  bs.dropWhile fun b => b == 32 || b == 9 || b == 10 || b == 13

/-- The code unit of four hexadecimal digits. -/
def unit? (a b c d : UInt8) : Option Nat :=
  Text.natIn? 16 ([a, b, c, d].map fun x => Char.ofNat x.toNat)

/-- The byte that a one-letter escape stands for. -/
def escape? (b : UInt8) : Option UInt8 :=
  match Char.ofNat b.toNat with
  | '"' => some 34
  | '\\' => some 92
  | '/' => some 47
  | 'b' => some 8
  | 'f' => some 12
  | 'n' => some 10
  | 'r' => some 13
  | 't' => some 9
  | _ => none

/-- Reads a string behind its opening quote. Control characters must be escaped. -/
def string? : List UInt8 → Option (List Piece × List UInt8)
  | [] => none
  | 34 :: r => some ([], r)
  | 92 :: 117 :: a :: b :: c :: d :: r => do
    let n ← unit? a b c d
    let (ps, r) ← string? r
    return (.unit n :: ps, r)
  | 92 :: e :: r => do
    let b ← escape? e
    let (ps, r) ← string? r
    return (.byte b :: ps, r)
  | b :: r =>
    if b < 32 || b == 92 then none
    else do
      let (ps, r) ← string? r
      return (.byte b :: ps, r)

/-- Whether a byte is a decimal digit. -/
def isDigit (b : UInt8) : Bool := 48 ≤ b && b ≤ 57

/-- Reads a non-empty run of digits. -/
def digits? (bs : List UInt8) : Option (List Nat × List UInt8) :=
  let ds := bs.takeWhile isDigit
  if ds.isEmpty then none else some (ds.map fun b => b.toNat - 48, bs.dropWhile isDigit)

/-- Reads the digits before the point: a zero stands alone. -/
def whole? : List UInt8 → Option (List Nat × List UInt8)
  | 48 :: r => match r with
    | b :: _ => if isDigit b then none else some ([0], r)
    | [] => some ([0], r)
  | r => digits? r

/-- Reads a fraction, if there is one. -/
def fraction? : List UInt8 → Option (Option (List Nat) × List UInt8)
  | 46 :: r => (digits? r).map fun (ds, r) => (some ds, r)
  | r => some (none, r)

/-- Reads an exponent, if there is one. -/
def exponent? : List UInt8 → Option (Option (Bool × List Nat) × List UInt8)
  | b :: r =>
    if b == 101 || b == 69 then
      let (below, r) : Bool × List UInt8 := match r with
        | 45 :: r => (true, r)
        | 43 :: r => (false, r)
        | r => (false, r)
      (digits? r).map fun (ds, r) => (some (below, ds), r)
    else some (none, b :: r)
  | [] => some (none, [])

/-- Reads a numeral behind its sign. -/
def numeral? (negative : Bool) (bs : List UInt8) : Option (Term × List UInt8) := do
  let (whole, r) ← whole? bs
  let (fraction, r) ← fraction? r
  let (exponent, r) ← exponent? r
  return (.number ⟨negative, whole, fraction, exponent⟩, r)

mutual

/-- Reads a term; the fuel bounds the number of bytes looked at. -/
def value? : Nat → List UInt8 → Option (Term × List UInt8)
  | 0, _ => none
  | fuel + 1, bs =>
    match skipBlanks bs with
    | 110 :: 117 :: 108 :: 108 :: r => some (.null, r)
    | 116 :: 114 :: 117 :: 101 :: r => some (.bool true, r)
    | 102 :: 97 :: 108 :: 115 :: 101 :: r => some (.bool false, r)
    | 34 :: r => (string? r).map fun (ps, r) => (.str ps, r)
    | 45 :: r => numeral? true r
    | 91 :: r => match skipBlanks r with
      | 93 :: r => some (.arr [], r)
      | r => (items? fuel r).map fun (ts, r) => (.arr ts, r)
    | 123 :: r => match skipBlanks r with
      | 125 :: r => some (.obj [], r)
      | r => (fields? fuel r).map fun (fs, r) => (.obj fs, r)
    | r => numeral? false r

/-- Reads the items of an array up to its closing bracket; there is at least one. -/
def items? : Nat → List UInt8 → Option (List Term × List UInt8)
  | 0, _ => none
  | fuel + 1, bs => do
    let (t, r) ← value? fuel bs
    match skipBlanks r with
    | 44 :: r => do
      let (ts, r) ← items? fuel r
      return (t :: ts, r)
    | 93 :: r => return ([t], r)
    | _ => none

/-- Reads the fields of an object up to its closing brace; there is at least one. -/
def fields? : Nat → List UInt8 → Option (List (List Piece × Term) × List UInt8)
  | 0, _ => none
  | fuel + 1, bs =>
    match skipBlanks bs with
    | 34 :: r => do
      let (k, r) ← string? r
      match skipBlanks r with
      | 58 :: r => do
        let (t, r) ← value? fuel r
        match skipBlanks r with
        | 44 :: r => do
          let (fs, r) ← fields? fuel r
          return ((k, t) :: fs, r)
        | 125 :: r => return ([(k, t)], r)
        | _ => none
      | _ => none
    | _ => none

end

/-- Reads a whole text as one term. -/
def parse? (bytes : ByteArray) : Option Term :=
  match value? (bytes.size + 1) bytes.toList with
  | some (t, r) => if (skipBlanks r).isEmpty then some t else none
  | none => none

end Term

/-- The bytes of a string; a code unit of a pair must be followed by its other half. -/
def Piece.bytes? : List Piece → Option (List UInt8)
  | [] => some []
  | .byte b :: r => (Piece.bytes? r).map (b :: ·)
  | .unit n :: .unit m :: r =>
    if 0xD800 ≤ n ∧ n < 0xDC00 then
      if 0xDC00 ≤ m ∧ m < 0xE000 then
        let c := Char.ofNat (0x10000 + (n - 0xD800) * 0x400 + (m - 0xDC00))
        (Piece.bytes? r).map ((String.singleton c).toUTF8.toList ++ ·)
      else none
    else if 0xDC00 ≤ n ∧ n < 0xE000 then none
    else (Piece.bytes? (.unit m :: r)).map ((String.singleton (Char.ofNat n)).toUTF8.toList ++ ·)
  | .unit n :: r =>
    if 0xD800 ≤ n ∧ n < 0xE000 then none
    else (Piece.bytes? r).map ((String.singleton (Char.ofNat n)).toUTF8.toList ++ ·)

/-- The text of a string, if it is Unicode. -/
def Piece.text? (ps : List Piece) : Option String := do
  String.fromUTF8? (← Piece.bytes? ps).toByteArray

mutual

/-- The value of a term, with the number of levels that may still be opened. An object with a key
that is no text cannot be read at all. -/
def Term.toJson (depth : Nat) : Term → Json
  | .null => .null
  | .bool b => .bool b
  | .number n => match n.number? with
    | some (.int i) => .int i
    | some (.float x) => .float x
    | none => .fault
  | .str ps => match Piece.text? ps with
    | some s => .str s
    | none => .fault
  | .arr ts => match depth with
    | 0 => .fault
    | depth + 1 => .arr (itemsToJson depth ts)
  | .obj fs => match depth with
    | 0 => .fault
    | depth + 1 => match fieldsToJson? depth fs with
      | some fs => .obj fs
      | none => .fault

/-- The values of items. -/
def itemsToJson (depth : Nat) : List Term → List Json
  | [] => []
  | t :: ts => t.toJson depth :: itemsToJson depth ts

/-- The values of fields, if every key is a text. -/
def fieldsToJson? (depth : Nat) : List (List Piece × Term) → Option (List (String × Json))
  | [] => some []
  | (k, t) :: fs => do
    let k ← Piece.text? k
    return (k, t.toJson depth) :: (← fieldsToJson? depth fs)

end

/-- Levels of arrays and objects that a text may nest. -/
def depthLimit : Nat := 127

/-- Reads a text as one value; nothing if it is not JSON. -/
def parse? (bytes : ByteArray) : Option Json := (Term.parse? bytes).map (Term.toJson depthLimit)

end ServiceControl.Json
