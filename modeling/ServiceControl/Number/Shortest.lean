import ServiceControl.Number.Binary64

/-!
# The shortest decimal of a double

The reals that round to a double form an interval around it. The shortest decimal is the one with
the fewest digits in that interval, and of two such the nearer to the double. The search looks at
the two neighbours of the number on the grid of one digit, then of two, and so on: if any point of a
grid lies in the interval, one of these two does. All of it is arithmetic on natural numbers.
-/

namespace ServiceControl.Shortest

/-- An open or closed interval around a value, all three in the same unit. -/
structure Interval where
  /-- The lower end. -/
  lo : Nat
  /-- The value. -/
  mid : Nat
  /-- The upper end. -/
  hi : Nat
  /-- Whether the ends belong to it. -/
  closed : Bool

/-- Membership in an interval. -/
def Interval.has (i : Interval) (x : Nat) : Bool :=
  if i.closed then i.lo ≤ x && x ≤ i.hi else i.lo < x && x < i.hi

/-- The interval that rounds to a finite number, in units of `2^-1076`. Below a power of two the
numbers stand twice as close. -/
def interval (x : Binary64) : Interval :=
  let unit := 2 ^ (x.exponentField - 1)
  let below := if x.fraction = 0 ∧ 1 < x.exponentField then unit else 2 * unit
  ⟨4 * x.scaled - below, 4 * x.scaled, 4 * x.scaled + 2 * unit, x.magnitudeWord % 2 = 0⟩

/-- The neighbour of the value that lies in the interval, the nearer one if both do: a point on the
grid of multiples of `10 ^ k`, given as its multiple. The unit of the interval is `1 / den`. -/
def nearestOnGrid? (i : Interval) (den : Nat) (k : Int) : Option Nat :=
  let up := 10 ^ (-k).toNat
  let step := 10 ^ k.toNat * den
  let i : Interval := ⟨i.lo * up, i.mid * up, i.hi * up, i.closed⟩
  let a := i.mid / step
  let lower := a * step
  let upper := (a + 1) * step
  match i.has lower, i.has upper with
  | true, true => some (if i.mid - lower ≤ upper - i.mid then a else a + 1)
  | true, false => some a
  | false, true => some (a + 1)
  | false, false => none

/-- Searches the grids from the coarsest to finer ones. -/
def search (i : Interval) (den : Nat) (k : Int) : Nat → Nat × Int
  | 0 => (i.mid * 10 ^ (-k).toNat / (10 ^ k.toNat * den), k)
  | n + 1 =>
    match nearestOnGrid? i den k with
    | some a => if a = 0 then search i den (k - 1) n else (a, k)
    | none => search i den (k - 1) n

/-- The power of ten of the leading digit of `num / den`, counted down from a bound. -/
def leading (num den : Nat) : Nat → Int → Int
  | 0, k => k
  | n + 1, k =>
    if 10 ^ k.toNat * den ≤ num * 10 ^ (-k).toNat then k else leading num den n (k - 1)

/-- Drops the zeros at the end of a decimal. -/
def dropZeros : Nat → Nat × Int → Nat × Int
  | 0, d => d
  | n + 1, (a, k) => if a % 10 = 0 ∧ a ≠ 0 then dropZeros n (a / 10, k + 1) else (a, k)

/-- The shortest decimal of a finite number that is not zero, as digits and a power of ten. -/
def decimal (x : Binary64) : Nat × Int :=
  let i := interval x
  let den := 2 ^ 1076
  let start : Int := ((i.mid.log2 : Int) - 1076) * 30103 / 100000 + 2
  let k := leading i.mid den 8 start
  dropZeros 18 (search i den (k + 1) 19)

/-- The characters of a natural number in base ten. -/
def digitChars (n : Nat) : List Char := Nat.toDigits 10 n

/-- Positional notation without an exponent; whole numbers get no point. -/
def positional (x : Binary64) : String :=
  let sign := if x.negative then "-" else ""
  if x.isNaN then "NaN"
  else if x.isInfinite then sign ++ "inf"
  else if x.scaled = 0 then sign ++ "0"
  else
    let (a, k) := decimal x
    let ds := digitChars a
    sign ++ String.ofList (
      if 0 ≤ k then ds ++ List.replicate k.toNat '0'
      else
        let places := (-k).toNat
        if places < ds.length then
          ds.take (ds.length - places) ++ '.' :: ds.drop (ds.length - places)
        else '0' :: '.' :: (List.replicate (places - ds.length) '0' ++ ds))

/-- Notation that always shows a fraction or an exponent: positional while the point stands within
sixteen digits after or five zeros before the digits, else with an exponent. -/
def scientific (x : Binary64) : String :=
  let sign := if x.negative then "-" else ""
  if x.scaled = 0 then sign ++ "0.0"
  else
    let (a, k) := decimal x
    let ds := digitChars a
    let point : Int := ds.length + k
    sign ++ String.ofList (
      if 0 ≤ k ∧ point ≤ 16 then ds ++ List.replicate k.toNat '0' ++ ['.', '0']
      else if 0 < point ∧ point ≤ 16 then ds.take point.toNat ++ '.' :: ds.drop point.toNat
      else if -5 < point ∧ point ≤ 0 then
        '0' :: '.' :: (List.replicate (-point).toNat '0' ++ ds)
      else
        let e := (if 0 < point then ['+'] else []) ++ (toString (point - 1)).toList
        match ds with
        | [d] => d :: 'e' :: e
        | d :: ds => d :: '.' :: (ds ++ 'e' :: e)
        | [] => [])

end ServiceControl.Shortest
