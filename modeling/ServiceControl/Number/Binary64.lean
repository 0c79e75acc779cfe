/-!
# Binary64 numbers

Double-precision numbers as 64-bit words, with their arithmetic done exactly on natural
numbers and rounded once, to the nearest number and to the even one of two equally near ones.
A finite number is an integer multiple of `2^-1074`; that integer is its scaled value, and
nothing here needs fractions.

The word order of positive numbers is the order of their values, so rounding writes a significand
`m` with unit exponent `p` as the word `p * 2^52 + m`: a significand that rounds up to the next
power of two carries into the exponent by itself.
-/

-- Powers and sums of numbers are the ones of the core library here and in all that builds on
-- this, whatever other instances are in sight, so that the arithmetic that runs is the one that
-- is reasoned about.
attribute [default_instance 20000] instPowNat
attribute [instance (1100)] instPowNat Zero.ofOfNat0

namespace ServiceControl

/-- A double-precision number, given by its word. -/
structure Binary64 where
  /-- Sign, eleven bits of exponent and 52 bits of fraction. -/
  bits : UInt64
  deriving DecidableEq, Repr, Inhabited

namespace Binary64

/-- The word of positive infinity. -/
def infinityWord : Nat := 2047 * 2 ^ 52

/-- Builds a number from a sign and the word of its magnitude. -/
def ofSignWord (negative : Bool) (word : Nat) : Binary64 :=
  ⟨UInt64.ofNat (if negative then 2 ^ 63 + word else word)⟩

/-- The word without its sign bit. -/
def magnitudeWord (x : Binary64) : Nat := x.bits.toNat % 2 ^ 63

/-- The sign bit. -/
def negative (x : Binary64) : Bool := 2 ^ 63 ≤ x.bits.toNat

/-- The biased exponent. -/
def exponentField (x : Binary64) : Nat := x.magnitudeWord / 2 ^ 52

/-- The 52 bits below the exponent. -/
def fraction (x : Binary64) : Nat := x.magnitudeWord % 2 ^ 52

/-- Not a number. -/
def isNaN (x : Binary64) : Bool := infinityWord < x.magnitudeWord

/-- Either infinity. -/
def isInfinite (x : Binary64) : Bool := x.magnitudeWord = infinityWord

/-- Neither infinite nor not a number. -/
def isFinite (x : Binary64) : Bool := x.magnitudeWord < infinityWord

/-- The magnitude of a finite number in units of `2^-1074`. -/
def scaled (x : Binary64) : Nat :=
  if x.exponentField = 0 then x.fraction else (2 ^ 52 + x.fraction) * 2 ^ (x.exponentField - 1)

/-- The value of a finite number in units of `2^-1074`, with its sign. -/
def scaledInt (x : Binary64) : Int := if x.negative then -(x.scaled : Int) else x.scaled

/-- A quotient rounded to the nearest integer, a half to the even one. -/
def roundDiv (num den : Nat) : Nat :=
  let q := num / den
  let r := num % den
  if 2 * r < den then q else if den < 2 * r then q + 1 else q + q % 2

/-- The word of the number nearest to `num / den` units of `2^-1074`. -/
def roundWord (num den : Nat) : Nat :=
  let p := (num / den).log2 - 52
  min (p * 2 ^ 52 + roundDiv num (den * 2 ^ p)) infinityWord

/-- The number nearest to `num / den` units of `2^-1074`, with the given sign. -/
def ofScaledRatio (negative : Bool) (num den : Nat) : Binary64 :=
  ofSignWord negative (roundWord num den)

/-- The number nearest to `num / den`, with the given sign. -/
def ofRatio (negative : Bool) (num den : Nat) : Binary64 :=
  ofScaledRatio negative (num * 2 ^ 1074) den

/-- The number nearest to an integer; zero is positive. -/
def ofInt (i : Int) : Binary64 := ofRatio (i < 0) i.natAbs 1

/-- Positive zero. -/
def zero : Binary64 := ⟨0⟩

/-- The number one. -/
def one : Binary64 := ofInt 1

/-- Positive infinity. -/
def infinity : Binary64 := ofSignWord false infinityWord

/-- The number that stands for an invalid operation: quiet, with its sign bit set. -/
def invalid : Binary64 := ⟨0xfff8000000000000⟩

/-- The number with the other sign. -/
def neg (x : Binary64) : Binary64 := ofSignWord (!x.negative) x.magnitudeWord

/-- What an operation answers when an operand is not a number: that operand, made quiet. -/
def quieted (x : Binary64) : Binary64 := ⟨x.bits ||| 0x0008000000000000⟩

/-- The sum of two integers of scaled units; an exact zero takes the given sign. -/
def ofScaledInt (zeroSign : Bool) (i : Int) : Binary64 :=
  if i = 0 then ofSignWord zeroSign 0 else ofScaledRatio (i < 0) i.natAbs 1

/-- The rounded sum. -/
def add (x y : Binary64) : Binary64 :=
  if x.isNaN then x.quieted
  else if y.isNaN then y.quieted
  else if x.isInfinite then
    if y.isInfinite && x.negative != y.negative then invalid else x
  else if y.isInfinite then y
  else ofScaledInt (x.negative && y.negative) (x.scaledInt + y.scaledInt)

/-- The rounded difference. -/
def sub (x y : Binary64) : Binary64 :=
  if x.isNaN then x.quieted else if y.isNaN then y.quieted else add x y.neg

/-- The rounded product. -/
def mul (x y : Binary64) : Binary64 :=
  let negative := x.negative != y.negative
  if x.isNaN then x.quieted
  else if y.isNaN then y.quieted
  else if x.isInfinite then
    if y.magnitudeWord = 0 then invalid else ofSignWord negative infinityWord
  else if y.isInfinite then
    if x.magnitudeWord = 0 then invalid else ofSignWord negative infinityWord
  else ofScaledRatio negative (x.scaled * y.scaled) (2 ^ 1074)

/-- The rounded quotient. -/
def div (x y : Binary64) : Binary64 :=
  let negative := x.negative != y.negative
  if x.isNaN then x.quieted
  else if y.isNaN then y.quieted
  else if x.isInfinite then
    if y.isInfinite then invalid else ofSignWord negative infinityWord
  else if y.isInfinite then ofSignWord negative 0
  else if y.magnitudeWord = 0 then
    if x.magnitudeWord = 0 then invalid else ofSignWord negative infinityWord
  else ofScaledRatio negative (x.scaled * 2 ^ 1074) y.scaled

instance : Add Binary64 := ⟨add⟩
instance : Sub Binary64 := ⟨sub⟩
instance : Mul Binary64 := ⟨mul⟩
instance : Div Binary64 := ⟨div⟩

/-- The word order with its sign: monotone in the value, and the same for both zeros. -/
def rank (x : Binary64) : Int := if x.negative then -(x.magnitudeWord : Int) else x.magnitudeWord

/-- Equality of values: the zeros are equal, and what is not a number equals nothing. -/
def same (x y : Binary64) : Bool := !x.isNaN && !y.isNaN && x.rank == y.rank

/-- The order of values or equality, false if an operand is not a number. -/
def atMost (x y : Binary64) : Bool := !x.isNaN && !y.isNaN && x.rank ≤ y.rank

/-- The integer part, cut at the ends of the 64-bit signed range; zero if not a number. -/
def toInt64 (x : Binary64) : Int :=
  if x.isNaN then 0
  else
    let m : Int := if x.isInfinite then 2 ^ 64 else (x.scaled / 2 ^ 1074 : Nat)
    max (-2 ^ 63) (min (2 ^ 63 - 1) (if x.negative then -m else m))

end Binary64

end ServiceControl
