import ServiceControl.Text.Ascii

/-!
# Internet addresses

Addresses of both families as words, and their strict text forms: four decimal numbers without
superfluous zeros, or eight groups of up to four hexadecimal digits, of which one run of zeros may
be left out and the last two may be written as four decimal numbers.
-/

namespace ServiceControl.Net

/-- An address of either family. -/
inductive Address where
  | v4 (bits : BitVec 32)
  | v6 (bits : BitVec 128)
  deriving DecidableEq, Repr

/-- The number of bits of an address's family. -/
def Address.width : Address → Nat
  | v4 _ => 32
  | v6 _ => 128

/-- Reads a number in a base that is at most a maximum. At most a number of digits may stand there,
and a superfluous zero may be refused. -/
def number? (base : Nat) (maxDigits : Option Nat) (padded : Bool) (maximum : Nat)
    (cs : List Char) : Option (Nat × List Char) :=
  let ds := cs.takeWhile fun c => (Text.digitIn? base c).isSome
  let tooLong := maxDigits.any (· < ds.length)
  if tooLong || (!padded && ds.head? == some '0' && 1 < ds.length) then none
  else match Text.natIn? base ds with
    | some n => if n ≤ maximum then some (n, cs.drop ds.length) else none
    | none => none

/-- Goes past a given character. -/
def char? (x : Char) : List Char → Option (List Char)
  | c :: r => if c = x then some r else none
  | [] => none

/-- Reads one of the four decimal numbers. -/
def octet? (cs : List Char) : Option (Nat × List Char) := number? 10 (some 3) false 255 cs

/-- Reads four decimal numbers with points between them. -/
def v4? (cs : List Char) : Option (BitVec 32 × List Char) := do
  let (a, r) ← octet? cs
  let (b, r) ← octet? (← char? '.' r)
  let (c, r) ← octet? (← char? '.' r)
  let (d, r) ← octet? (← char? '.' r)
  return (BitVec.ofNat 32 (((a * 256 + b) * 256 + c) * 256 + d), r)

/-- Goes past the colon in front of every group but the first. -/
def separator? (first : Bool) (cs : List Char) : Option (List Char) :=
  if first then some cs else char? ':' cs

/-- Reads groups up to a number of them; tells whether the last two were decimal numbers. -/
def groups (first : Bool) : Nat → List Char → List Nat × Bool × List Char
  | 0, cs => ([], false, cs)
  | room + 1, cs =>
    let embedded := if 0 < room then (separator? first cs).bind v4? else none
    match embedded with
    | some (a, r) => ([a.toNat / 65536, a.toNat % 65536], true, r)
    | none =>
      match (separator? first cs).bind (number? 16 (some 4) true 65535) with
      | some (g, r) =>
        let (gs, v4, r) := groups false room r
        (g :: gs, v4, r)
      | none => ([], false, cs)

/-- The address of eight groups. -/
def ofGroups (gs : List Nat) : BitVec 128 :=
  BitVec.ofNat 128 (gs.foldl (fun n g => n * 65536 + g) 0)

/-- Reads eight groups; a double colon stands for one or more zeros. -/
def v6? (cs : List Char) : Option (BitVec 128 × List Char) :=
  let (head, v4, r) := groups true 8 cs
  if head.length = 8 then some (ofGroups head, r)
  else if v4 then none
  else do
    let r ← char? ':' (← char? ':' r)
    let (tail, _, r) := groups true (7 - head.length) r
    return (ofGroups (head ++ List.replicate (8 - head.length - tail.length) 0 ++ tail), r)

/-- Reads an address in the form of either family. -/
def Address.parse? (s : String) : Option Address :=
  match v4? s.toList with
  | some (a, []) => some (.v4 a)
  | _ =>
    match v6? s.toList with
    | some (a, []) => some (.v6 a)
    | _ => none

/-- The numbers of an address from the first to the last: four of one byte, or eight of two. -/
def Address.parts : Address → List Nat
  | v4 bits => [24, 16, 8, 0].map fun i => (bits >>> i).toNat % 256
  | v6 bits => [112, 96, 80, 64, 48, 32, 16, 0].map fun i => (bits >>> i).toNat % 65536

/-- Where the longest run of zeros starts, and how long it is; the first one of several. -/
def longestRun (gs : List Nat) : Nat × Nat :=
  let runs := (List.range gs.length).map fun i => (i, ((gs.drop i).takeWhile (· == 0)).length)
  runs.foldl (fun longest run => if longest.2 < run.2 then run else longest) (0, 0)

/-- The text of an address. Of eight groups the longest run of zeros is left out,
but no single zero. -/
def Address.text (a : Address) : String :=
  match a with
  | v4 _ => ".".intercalate (a.parts.map Nat.repr)
  | v6 _ =>
    let shown (gs : List Nat) := ":".intercalate (gs.map fun g => String.ofList (Nat.toDigits 16 g))
    let (start, length) := longestRun a.parts
    if length < 2 then shown a.parts
    else shown (a.parts.take start) ++ "::" ++ shown (a.parts.drop (start + length))

end ServiceControl.Net
