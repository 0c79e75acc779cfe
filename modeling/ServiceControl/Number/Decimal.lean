import ServiceControl.Number.Binary64
import ServiceControl.Text.Ascii

/-!
# Decimal numbers

A decimal is a natural significand with a power of ten. It is read from digits with an optional
fraction and exponent, and rounded to the nearest double.
-/

namespace ServiceControl

/-- The number `significand * 10 ^ exponent` with a sign. -/
structure Decimal where
  /-- Whether the number stands below zero, or is a negative zero. -/
  negative : Bool
  /-- The digits as one natural number. -/
  significand : Nat
  /-- The power of ten that the digits are counted in. -/
  exponent : Int
  deriving DecidableEq, Repr, Inhabited

namespace Decimal

/-- A non-empty run of digits as a number, with what follows it. -/
def digits? (cs : List Char) : Option (List Char × List Char) :=
  let ds := cs.takeWhile Char.isDigit
  if ds.isEmpty then none else some (ds, cs.dropWhile Char.isDigit)

/-- The number that a run of digits writes. -/
def ofDigits (ds : List Char) : Nat := ds.foldl (fun n c => n * 10 + (c.toNat - '0'.toNat)) 0

/-- The value of an exponent such as `e-7`, or zero if there is nothing left to read. -/
def exponent? : List Char → Option Int
  | [] => some 0
  | e :: cs =>
    if e = 'e' ∨ e = 'E' then
      let (sign, cs) : Int × List Char := match cs with
        | '-' :: r => (-1, r)
        | '+' :: r => (1, r)
        | r => (1, r)
      match digits? cs with
      | some (ds, []) => some (sign * ofDigits ds)
      | _ => none
    else none

/-- Reads digits, a fraction and an exponent; either side of the point may be empty, not both. -/
def unsigned? (negative : Bool) (cs : List Char) : Option Decimal :=
  let whole := cs.takeWhile Char.isDigit
  let (part, rest) : List Char × List Char := match cs.dropWhile Char.isDigit with
    | '.' :: r => (r.takeWhile Char.isDigit, r.dropWhile Char.isDigit)
    | r => ([], r)
  if whole.isEmpty && part.isEmpty then none
  else (exponent? rest).map fun e => ⟨negative, ofDigits (whole ++ part), e - part.length⟩

/-- Reads a number with an optional sign. -/
def parse? : List Char → Option Decimal
  | '-' :: cs => unsigned? true cs
  | '+' :: cs => unsigned? false cs
  | cs => unsigned? false cs

/-- The nearest double. Beyond the range of doubles the power of ten is not computed: a significand
of one or more is infinite above `10 ^ 310`, and `10 ^ e` is at most `2 ^ (3 * e)` below zero. -/
def toBinary64 (d : Decimal) : Binary64 :=
  if d.significand = 0 then Binary64.ofSignWord d.negative 0
  else if 310 < d.exponent then Binary64.ofSignWord d.negative Binary64.infinityWord
  else if (d.significand.log2 : Int) + 1 + 3 * d.exponent < -1100 then
    Binary64.ofSignWord d.negative 0
  else if 0 ≤ d.exponent then
    Binary64.ofRatio d.negative (d.significand * 10 ^ d.exponent.toNat) 1
  else Binary64.ofRatio d.negative d.significand (10 ^ (-d.exponent).toNat)

end Decimal

end ServiceControl
