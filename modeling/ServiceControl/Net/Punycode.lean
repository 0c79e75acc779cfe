import ServiceControl.Text.Cut

/-!
# Encoded labels

A label with characters beyond ASCII can be written in ASCII: its ASCII characters first, then
behind a hyphen how far it is, in code points and places, from one inserted character to the next.
The distances are numbers of base thirty-six whose digits end by themselves, under thresholds that
follow the size of the distances before.
-/

namespace ServiceControl.Net

/-- The threshold of a digit of an encoded distance. -/
def digitThreshold (k bias : Nat) : Nat := if k ≤ bias then 1 else min 26 (k - bias)

/-- The value of a letter or digit as a digit of base thirty-six. -/
def digit36? (c : Char) : Option Nat :=
  if 'a' ≤ c ∧ c ≤ 'z' then some (c.toNat - 'a'.toNat)
  else if '0' ≤ c ∧ c ≤ '9' then some (c.toNat - '0'.toNat + 26)
  else none

/-- Reads an encoded distance, least digit first. -/
def readDistance (bias : Nat) : List Char → Nat → Nat → Nat → Option (Nat × List Char)
  | [], _, _, _ => none
  | c :: r, k, weight, n => do
    let d ← digit36? c
    let t := digitThreshold k bias
    if d < t then return (n + d * weight, r)
    else readDistance bias r (k + 36) (weight * (36 - t)) (n + d * weight)

/-- How often a distance is divided before the bias is taken from it. -/
def biasOf : Nat → Nat → Nat → Nat
  | 0, k, d => k + 36 * d / (d + 38)
  | fuel + 1, k, d => if 455 < d then biasOf fuel (k + 36) (d / 35) else k + 36 * d / (d + 38)

/-- Puts encoded characters into a label one after another. -/
def decodeInsertions : Nat → List Char → List Char → Nat → Nat → Nat → Option (List Char)
  | _, [], out, _, _, _ => some out
  | 0, _ :: _, _, _, _, _ => none
  | fuel + 1, c :: r, out, n, i, bias => do
    let (i', r) ← readDistance bias (c :: r) 36 1 i
    let size := out.length + 1
    let delta := (i' - i) / (if i = 0 then 700 else 2)
    let code := n + i' / size
    if !code.isValidChar then none
    let place := i' % size
    decodeInsertions fuel r (out.insertIdx place (Char.ofNat code)) code (place + 1)
      (biasOf 64 0 (delta + delta / size))

/-- The characters of an encoded label, behind its mark. A hyphen with nothing before it is no
separator. -/
def decodeLabel? (cs : List Char) : Option (List Char) :=
  let (basic, encoded) := match Text.cutLastList '-' cs with
    | some (a :: as, b) => (a :: as, b)
    | _ => ([], cs)
  decodeInsertions encoded.length encoded basic 128 0 72

end ServiceControl.Net
