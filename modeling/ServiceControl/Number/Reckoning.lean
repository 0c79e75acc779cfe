import ServiceControl.Number.Binary64

/-!
# Numbers to reckon with

What is computed from measured values is written once for every number type: it runs on doubles,
where each operation rounds, and is reasoned about on rationals, where none does.
-/

namespace ServiceControl

/-- The operations that computations on measured values use. -/
class Reckoning (α : Type) extends Add α, Sub α, Mul α, Div α where
  /-- Small whole numbers. -/
  whole : Nat → α
  /-- Equality of values. -/
  same : α → α → Bool

instance : Reckoning Binary64 where
  whole n := Binary64.ofInt n
  same := Binary64.same

instance : Reckoning Rat where
  whole n := n
  same a b := a == b

/-- A power with a natural exponent by repeated squaring, onto a product so far. -/
def powerOnto [Mul α] (product base : α) (n : Nat) : α :=
  let product := if n % 2 = 1 then product * base else product
  if n / 2 = 0 then product else powerOnto product (base * base) (n / 2)
termination_by n
decreasing_by omega

/-- A power with a natural exponent. -/
def power [Reckoning α] (base : α) (n : Nat) : α := powerOnto (Reckoning.whole 1) base n

end ServiceControl
