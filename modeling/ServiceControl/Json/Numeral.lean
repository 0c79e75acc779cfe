import ServiceControl.Number.Decimal

/-!
# JSON numerals

A numeral is kept as it is written until somebody reads it. Whole numbers in the 64-bit
ranges are integers. Every other numeral is a double: the leading digits that fit into 64
bits, times or divided by one power of ten. That rounds twice, so a numeral of many digits
may miss the nearest double.
-/

namespace ServiceControl

/-- A numeral in the notation of JSON. -/
structure Numeral where
  /-- Whether a minus sign stands in front. -/
  negative : Bool
  /-- The digits before the point. -/
  whole : List Nat
  /-- The digits behind the point, if there is one. -/
  fraction : Option (List Nat)
  /-- The sign and the digits of the exponent, if there is one. -/
  exponent : Option (Bool × List Nat)
  deriving Repr, Inhabited

/-- What a numeral stands for. -/
inductive Number where
  | int (i : Int)
  | float (x : Binary64)
  deriving Repr, DecidableEq

namespace Numeral

/-- The largest unsigned 64-bit integer. -/
def wordMax : Nat := 2 ^ 64 - 1

/-- The largest power of ten applied in one step. -/
def stepMax : Nat := 308

/-- Appends digits to a significand until the next one would exceed 64 bits; what is left of the
digits is returned. -/
def take (significand : Nat) : List Nat → Nat × List Nat
  | [] => (significand, [])
  | d :: ds =>
    if wordMax < significand * 10 + d then (significand, d :: ds)
    else take (significand * 10 + d) ds

/-- The digits as one number. -/
def value (ds : List Nat) : Nat := ds.foldl (fun n d => n * 10 + d) 0

/-- A double times a power of ten: beyond the table the number is first divided by its last entry.
Nothing if the result is infinite. -/
def applyPower (x : Binary64) (exponent : Int) : Nat → Option Binary64
  | 0 => some x
  | n + 1 =>
    if exponent.natAbs ≤ stepMax then
      let p := (Decimal.mk false 1 exponent.natAbs).toBinary64
      if 0 ≤ exponent then
        if (x * p).isInfinite then none else some (x * p)
      else some (x / p)
    else if x.magnitudeWord = 0 then some x
    else if 0 ≤ exponent then none
    else applyPower (x / (Decimal.mk false 1 stepMax).toBinary64) (exponent + stepMax) n

/-- The sign put in front of a double. -/
def signed (n : Numeral) (x : Binary64) : Binary64 := if n.negative then x.neg else x

/-- The numeral read as a double; three steps bring any 64-bit significand down to zero. -/
def toBinary64? (n : Numeral) : Option Binary64 :=
  let (s, left) := take 0 n.whole
  let fraction := n.fraction.getD []
  let (s, unread) := take s fraction
  let shift : Int := (left.length : Int) - (fraction.length - unread.length : Nat)
  match n.exponent with
  | none => (applyPower (Binary64.ofInt s) shift 4).map n.signed
  | some (below, ds) =>
    let e := value ds
    if 2 ^ 31 - 1 < e then
      if s ≠ 0 ∧ ¬ below then none else some (n.signed Binary64.zero)
    else
      let e : Int := if below then shift - e else shift + e
      let e := max (-2 ^ 31) (min (2 ^ 31 - 1) e)
      (applyPower (Binary64.ofInt s) e 4).map n.signed

/-- The number that the numeral stands for: an integer if it is written as one and lies in the
signed or unsigned 64-bit range, else a double. Minus zero is a double. -/
def number? (n : Numeral) : Option Number :=
  let v := value n.whole
  if n.fraction.isSome || n.exponent.isSome || wordMax < v then n.toBinary64?.map .float
  else if !n.negative then some (.int v)
  else if 0 < v ∧ v ≤ 2 ^ 63 then some (.int (-v))
  else some (.float (n.signed (Binary64.ofInt v)))

end Numeral

end ServiceControl
