import ServiceControl.Call.Basic
import ServiceControl.Number.Reckoning

/-!
# Samples of distributions

A distribution tells how many values fell into each bucket, not which values. Samples stand for
them: each bucket gives as many equal values as it counts. The first bucket's value is the
minimum, or its bound if the minimum is zero; the middle of a bucket stands for the values
between two bounds; above the last bound stands the maximum, or half the bound that would come
next if the maximum is zero.
-/

namespace ServiceControl

/-- Why a distribution has no samples. -/
inductive SampleError where
  /-- The distribution has other buckets, or none. -/
  | otherLayout
  /-- A layout without bounds was asked for one. -/
  | noBounds
  deriving DecidableEq, Repr

namespace ExponentialBuckets

variable {α : Type} [Reckoning α]

/-- The bounds between buckets. -/
def bounds (l : ExponentialBuckets α) : List α :=
  (List.range l.count.toNatClampNeg).map fun i => l.scale * power l.growth i

/-- Whether two layouts have the same numbers. -/
def same (l m : ExponentialBuckets α) : Bool :=
  l.count == m.count && Reckoning.same l.growth m.growth && Reckoning.same l.scale m.scale

/-- The value that stands for the first bucket. -/
def firstValue (bounds : List α) (minimum : α) : Except SampleError α :=
  if Reckoning.same minimum (Reckoning.whole 0) then
    match bounds.head? with
    | some b => .ok b
    | none => .error .noBounds
  else .ok minimum

/-- The value that stands for what lies above all bounds. -/
def lastValue (l : ExponentialBuckets α) (bounds : List α) (maximum : α) : Except SampleError α :=
  if Reckoning.same maximum (Reckoning.whole 0) then
    match bounds.getLast? with
    | some b => .ok (b * l.growth / Reckoning.whole 2)
    | none => .error .noBounds
  else .ok maximum

/-- The value that stands for a bucket. -/
def bucketValue (l : ExponentialBuckets α) (bounds : List α) (first maximum : α) (i : Nat) :
    Except SampleError α :=
  match bounds[i]? with
  | none => l.lastValue bounds maximum
  | some b =>
    match i with
    | 0 => .ok first
    | i + 1 =>
      match bounds[i]? with
      | some a => .ok (a + (b - a) / Reckoning.whole 2)
      | none => .ok first

/-- The samples of the buckets from one on. -/
def samplesFrom (l : ExponentialBuckets α) (bounds : List α) (first maximum : α) :
    Nat → List Int64 → Except SampleError (List α)
  | _, [] => .ok []
  | i, c :: counts => do
    let v ← l.bucketValue bounds first maximum i
    return List.replicate c.toNatClampNeg v ++ (← l.samplesFrom bounds first maximum (i + 1) counts)

/-- The samples of a distribution with this layout, bucket by bucket. -/
def samples (l : ExponentialBuckets α) (d : Distribution α) : Except SampleError (List α) := do
  if !d.buckets.any l.same then throw .otherLayout
  let bounds := l.bounds
  let first ← firstValue bounds d.minimum
  l.samplesFrom bounds first d.maximum 0 d.bucketCounts

end ExponentialBuckets

end ServiceControl
