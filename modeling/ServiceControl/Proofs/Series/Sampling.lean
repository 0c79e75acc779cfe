import Mathlib.Algebra.Order.Field.Rat
import Mathlib.Tactic.Linarith
import Mathlib.Tactic.Ring
import ServiceControl.Call.Samples

/-!
# Samples fall back into their buckets

The samples of a distribution stand for values that nobody has kept. Whoever sorts them into the
same buckets again gets the counts of the distribution, negative ones taken as zero, and finds all
that was counted beyond the last bound in the bucket above it. For this the bounds have to more than
double: the value that stands for what lies above the last bound is half the bound that would come
next. Minimum and maximum are taken as they are told, so they have to be in the first and in the
last bucket themselves.
-/

namespace ServiceControl

/-- Repeated squaring multiplies a product by a power. -/
theorem powerOnto_eq (product base : Rat) (n : Nat) :
    powerOnto product base n = product * base ^ n := by
  induction n using Nat.strong_induction_on generalizing product base with
  | _ n ih =>
    have hhalves : base ^ n = base ^ (n % 2) * (base * base) ^ (n / 2) := by
      rw [← pow_two, ← pow_mul, ← pow_add, Nat.mod_add_div]
    have hproduct : (if n % 2 = 1 then product * base else product) = product * base ^ (n % 2) := by
      rcases Nat.mod_two_eq_zero_or_one n with heven | hodd
      · rw [if_neg (by omega), heven, pow_zero, mul_one]
      · rw [if_pos hodd, hodd, pow_one]
    rw [powerOnto, hproduct, hhalves]
    by_cases hlast : n / 2 = 0
    · rw [if_pos hlast, hlast, pow_zero, mul_one]
    · rw [if_neg hlast, ih (n / 2) (by omega), mul_assoc]

/-- Powers of rationals are what they should be. -/
theorem power_eq_pow (base : Rat) (n : Nat) : power base n = base ^ n :=
  (powerOnto_eq 1 base n).trans (one_mul _)

namespace ExponentialBuckets

/-- As many values for each bucket as it counts, bucket by bucket. -/
def spread (value : Nat → Rat) (start : Nat) (counts : List Int64) : List Rat :=
  (counts.zipIdx start).flatMap fun p => List.replicate p.1.toNatClampNeg (value p.2)

section Spread

variable {value : Nat → Rat} {p : Rat → Bool} {start n : Nat} {c : Int64} {counts : List Int64}

theorem spread_cons : spread value start (c :: counts) =
    List.replicate c.toNatClampNeg (value start) ++ spread value (start + 1) counts := by
  rw [spread, List.zipIdx_cons, List.flatMap_cons]
  rfl

theorem countP_spread_cons : (spread value start (c :: counts)).countP p =
    (if p (value start) = true then c.toNatClampNeg else 0) +
      (spread value (start + 1) counts).countP p := by
  rw [spread_cons, List.countP_append, List.countP_replicate]

/-- There are as many values as the buckets count together. -/
theorem length_spread : (spread value start counts).length =
    (counts.map Int64.toNatClampNeg).sum := by
  induction counts generalizing start with
  | nil => rfl
  | cons c counts ih =>
    rw [spread_cons, List.length_append, List.length_replicate, ih, List.map_cons, List.sum_cons]

/-- A property that no bucket's value has is had by none. -/
theorem countP_spread_of_none (hp : ∀ i, start ≤ i → ¬p (value i) = true) :
    (spread value start counts).countP p = 0 := by
  induction counts generalizing start with
  | nil => rfl
  | cons c counts ih =>
    have hrest : ∀ i, start + 1 ≤ i → ¬p (value i) = true := fun i hi => hp i (by omega)
    rw [countP_spread_cons, ih hrest, if_neg (hp start (Nat.le_refl start))]

/-- A property that only the value of one bucket has is had by as many as this bucket counts. -/
theorem countP_spread_of_eq (hp : ∀ i, start ≤ i → (p (value i) = true ↔ i = start + n)) :
    (spread value start counts).countP p = (counts[n]?.getD 0).toNatClampNeg := by
  induction counts generalizing start n with
  | nil => rfl
  | cons c counts ih =>
    have hfirst := hp start (Nat.le_refl start)
    rw [countP_spread_cons]
    cases n with
    | zero =>
      have hnone : ∀ i, start + 1 ≤ i → ¬p (value i) = true := fun i hi => by
        rw [hp i (by omega)]
        omega
      rw [countP_spread_of_none hnone, if_pos (hfirst.mpr rfl)]
      rfl
    | succ n =>
      have hlater : ∀ i, start + 1 ≤ i → (p (value i) = true ↔ i = start + 1 + n) := fun i hi => by
        rw [hp i (by omega)]
        omega
      rw [ih hlater, if_neg (by rw [hfirst]; omega), Nat.zero_add, List.getElem?_cons_succ]

/-- A property that the values of all buckets from one on have is had by as many as these count. -/
theorem countP_spread_of_le (hp : ∀ i, start ≤ i → (p (value i) = true ↔ start + n ≤ i)) :
    (spread value start counts).countP p = ((counts.drop n).map Int64.toNatClampNeg).sum := by
  induction counts generalizing start n with
  | nil => rw [List.drop_nil]; rfl
  | cons c counts ih =>
    have hfirst := hp start (Nat.le_refl start)
    rw [countP_spread_cons]
    cases n with
    | zero =>
      have hall : ∀ i, start + 1 ≤ i → (p (value i) = true ↔ start + 1 + 0 ≤ i) := fun i hi => by
        rw [hp i (by omega)]
        omega
      rw [ih hall, if_pos (hfirst.mpr (Nat.le_refl start))]
      rfl
    | succ n =>
      have hlater : ∀ i, start + 1 ≤ i → (p (value i) = true ↔ start + 1 + n ≤ i) := fun i hi => by
        rw [hp i (by omega)]
        omega
      rw [ih hlater, if_neg (by rw [hfirst]; omega), Nat.zero_add, List.drop_succ_cons]

end Spread

/-- A layout with at least one bound, the first one positive and each more than
twice the one before. -/
structure Rises (l : ExponentialBuckets Rat) : Prop where
  count : 1 ≤ l.count
  scale : 0 < l.scale
  growth : 2 < l.growth

/-- The number of bounds. -/
def size (l : ExponentialBuckets Rat) : Nat := l.count.toNatClampNeg

/-- The bound of a bucket. -/
def bound (l : ExponentialBuckets Rat) (i : Nat) : Rat := l.scale * l.growth ^ i

/-- A value lies in a bucket: in the first one up to its bound, in another one above the bound
before and up to its own. The bucket that comes after the last bound has none of its own. -/
def LiesIn (l : ExponentialBuckets Rat) : Nat → Rat → Prop
  | 0, x => ∀ b ∈ l.bounds[0]?, x ≤ b
  | i + 1, x => (∀ a ∈ l.bounds[i]?, a < x) ∧ ∀ b ∈ l.bounds[i + 1]?, x ≤ b

instance (l : ExponentialBuckets Rat) : (i : Nat) → DecidablePred (l.LiesIn i)
  | 0 => fun _ => inferInstanceAs (Decidable (∀ _ ∈ _, _))
  | _ + 1 => fun _ => inferInstanceAs (Decidable ((∀ _ ∈ _, _) ∧ ∀ _ ∈ _, _))

/-- The value that stands for a bucket. -/
def standIn (l : ExponentialBuckets Rat) (d : Distribution Rat) (i : Nat) : Rat :=
  if l.size ≤ i then
    if d.maximum = 0 then l.bound l.size / 2 else d.maximum
  else if i = 0 then
    if d.minimum = 0 then l.bound 0 else d.minimum
  else (l.bound (i - 1) + l.bound i) / 2

variable {l : ExponentialBuckets Rat} {d : Distribution Rat}

theorem bounds_eq (l : ExponentialBuckets Rat) : l.bounds = (List.range l.size).map l.bound :=
  List.map_congr_left fun i _ => congrArg (l.scale * ·) (power_eq_pow l.growth i)

theorem length_bounds (l : ExponentialBuckets Rat) : l.bounds.length = l.size := by
  rw [bounds_eq, List.length_map, List.length_range]

theorem getElem?_bounds {i : Nat} (hi : i < l.size) : l.bounds[i]? = some (l.bound i) := by
  rw [bounds_eq, List.getElem?_map, List.getElem?_range hi]
  rfl

theorem getElem?_bounds_of_size_le {i : Nat} (hi : l.size ≤ i) : l.bounds[i]? = none := by
  rw [List.getElem?_eq_none_iff, length_bounds]
  exact hi

theorem bound_succ (l : ExponentialBuckets Rat) (i : Nat) :
    l.bound (i + 1) = l.bound i * l.growth := by
  rw [bound, bound, pow_succ, mul_assoc]

/-- In a layout that rises all bounds are positive. -/
theorem Rises.bound_pos (hl : l.Rises) (i : Nat) : 0 < l.bound i :=
  mul_pos hl.scale (pow_pos (by linarith [hl.growth]) i)

/-- A bound is more than twice the one before. -/
theorem Rises.two_mul_bound_lt (hl : l.Rises) (i : Nat) : 2 * l.bound i < l.bound (i + 1) := by
  rw [bound_succ, mul_comm 2]
  exact mul_lt_mul_of_pos_left hl.growth (hl.bound_pos i)

/-- Bounds do not fall. -/
theorem Rises.bound_mono (hl : l.Rises) : Monotone l.bound :=
  monotone_nat_of_le_succ fun i => by linarith [hl.bound_pos i, hl.two_mul_bound_lt i]

/-- A layout that rises has a bound. -/
theorem Rises.size_pos (hl : l.Rises) : 0 < l.size := by
  have hcount := Int32.le_iff_toInt_le.mp hl.count
  have hone : (1 : Int32).toInt = 1 := rfl
  rw [hone] at hcount
  exact Int.lt_toNat.mpr (by omega)

theorem Rises.head?_bounds (hl : l.Rises) : l.bounds.head? = some (l.bound 0) := by
  rw [List.head?_eq_getElem?, getElem?_bounds hl.size_pos]

theorem Rises.getLast?_bounds (hl : l.Rises) : l.bounds.getLast? = some (l.bound (l.size - 1)) := by
  have hlast : l.size - 1 < l.size := Nat.sub_lt hl.size_pos Nat.one_pos
  rw [List.getLast?_eq_getElem?, length_bounds, getElem?_bounds hlast]

/-- In the first bucket lies what is up to the first bound. -/
theorem Rises.liesIn_zero_iff (hl : l.Rises) {x : Rat} : l.LiesIn 0 x ↔ x ≤ l.bound 0 := by
  rw [LiesIn, getElem?_bounds hl.size_pos]
  simp only [Option.mem_some, forall_eq']

/-- In another bucket lies what is above the bound before and, if the bucket has
a bound, up to it. -/
theorem liesIn_succ_iff {i : Nat} {x : Rat} (hi : i < l.size) :
    l.LiesIn (i + 1) x ↔ l.bound i < x ∧ (i + 1 < l.size → x ≤ l.bound (i + 1)) := by
  rw [LiesIn, getElem?_bounds hi]
  by_cases hnext : i + 1 < l.size
  · rw [getElem?_bounds hnext]
    simp only [Option.mem_some, forall_eq', hnext, forall_const]
  · rw [getElem?_bounds_of_size_le (Nat.le_of_not_lt hnext)]
    simp only [Option.mem_some, forall_eq', Option.not_mem_none, hnext, false_imp_iff,
      implies_true]

/-- Above the last bound there is no other one. -/
theorem Rises.liesIn_size_iff (hl : l.Rises) {x : Rat} :
    l.LiesIn l.size x ↔ l.bound (l.size - 1) < x := by
  obtain ⟨k, hk⟩ := Nat.exists_eq_succ_of_ne_zero hl.size_pos.ne'
  have hnext : ¬k + 1 < l.size := by omega
  rw [hk, Nat.succ_eq_add_one, liesIn_succ_iff (by omega), Nat.add_sub_cancel]
  exact and_iff_left fun h => absurd h hnext

/-- What lies in a bucket is not beyond its bound. -/
theorem Rises.le_bound_of_liesIn (hl : l.Rises) {i : Nat} {x : Rat} (hi : i < l.size)
    (hx : l.LiesIn i x) : x ≤ l.bound i := by
  cases i with
  | zero => exact hl.liesIn_zero_iff.mp hx
  | succ i => exact ((liesIn_succ_iff (Nat.lt_of_succ_lt hi)).mp hx).2 hi

/-- What lies in a bucket does not lie in one that comes later. -/
theorem Rises.not_lt_of_liesIn (hl : l.Rises) {i j : Nat} {x : Rat} (hj : j ≤ l.size)
    (hxi : l.LiesIn i x) (hxj : l.LiesIn j x) : ¬i < j := by
  intro hij
  cases j with
  | zero => omega
  | succ j =>
    have hup : x ≤ l.bound i := hl.le_bound_of_liesIn (by omega) hxi
    have hmono : l.bound i ≤ l.bound j := hl.bound_mono (Nat.le_of_lt_succ hij)
    have hlow : l.bound j < x := ((liesIn_succ_iff hj).mp hxj).1
    exact absurd hlow (not_lt.mpr (hup.trans hmono))

/-- No value lies in two buckets. -/
theorem Rises.eq_of_liesIn (hl : l.Rises) {i j : Nat} {x : Rat} (hi : i ≤ l.size) (hj : j ≤ l.size)
    (hxi : l.LiesIn i x) (hxj : l.LiesIn j x) : i = j :=
  Nat.le_antisymm (Nat.le_of_not_lt (hl.not_lt_of_liesIn hi hxj hxi))
    (Nat.le_of_not_lt (hl.not_lt_of_liesIn hj hxi hxj))

/-- A value is in one of the first buckets or beyond the bound of the last of them. -/
theorem Rises.exists_liesIn_or_bound_lt (hl : l.Rises) (x : Rat) {i : Nat} (hi : i < l.size) :
    (∃ j ≤ i, l.LiesIn j x) ∨ l.bound i < x := by
  induction i with
  | zero =>
    rcases le_or_gt x (l.bound 0) with hup | hlow
    · exact .inl ⟨0, le_rfl, hl.liesIn_zero_iff.mpr hup⟩
    · exact .inr hlow
  | succ i ih =>
    rcases ih (Nat.lt_of_succ_lt hi) with ⟨j, hj, hx⟩ | hlow
    · exact .inl ⟨j, Nat.le_succ_of_le hj, hx⟩
    · rcases le_or_gt x (l.bound (i + 1)) with hup | hlow'
      · have hx : l.LiesIn (i + 1) x :=
          (liesIn_succ_iff (Nat.lt_of_succ_lt hi)).mpr ⟨hlow, fun _ => hup⟩
        exact .inl ⟨i + 1, le_rfl, hx⟩
      · exact .inr hlow'

/-- Sorting into the buckets puts each value into exactly one. -/
theorem Rises.existsUnique_liesIn (hl : l.Rises) (x : Rat) :
    ∃! i, i ≤ l.size ∧ l.LiesIn i x := by
  have hlast : l.size - 1 < l.size := Nat.sub_lt hl.size_pos Nat.one_pos
  have hin : ∃ i ≤ l.size, l.LiesIn i x := by
    rcases hl.exists_liesIn_or_bound_lt x hlast with ⟨i, hi, hx⟩ | hlow
    · exact ⟨i, by omega, hx⟩
    · exact ⟨l.size, le_rfl, hl.liesIn_size_iff.mpr hlow⟩
  obtain ⟨i, hi, hx⟩ := hin
  exact ⟨i, ⟨hi, hx⟩, fun j ⟨hj, hxj⟩ => hl.eq_of_liesIn hj hi hxj hx⟩

theorem Rises.standIn_zero (hl : l.Rises) :
    l.standIn d 0 = if d.minimum = 0 then l.bound 0 else d.minimum := by
  rw [standIn, if_neg (Nat.not_le.mpr hl.size_pos), if_pos rfl]

theorem standIn_succ {i : Nat} (hi : i + 1 < l.size) :
    l.standIn d (i + 1) = (l.bound i + l.bound (i + 1)) / 2 := by
  rw [standIn, if_neg (Nat.not_le.mpr hi), if_neg (Nat.succ_ne_zero i), Nat.add_sub_cancel]

theorem standIn_of_size_le {i : Nat} (hi : l.size ≤ i) :
    l.standIn d i = if d.maximum = 0 then l.bound l.size / 2 else d.maximum :=
  if_pos hi

/-- With minimum and maximum where they belong, the value that stands for a bucket lies in it, and
what stands for all that comes after the last bound lies in the bucket there. -/
theorem Rises.liesIn_standIn (hl : l.Rises) (hmin : d.minimum = 0 ∨ d.minimum ≤ l.bound 0)
    (hmax : d.maximum = 0 ∨ l.bound (l.size - 1) < d.maximum) (i : Nat) :
    l.LiesIn (min i l.size) (l.standIn d i) := by
  by_cases hi : l.size ≤ i
  · have hhalf := hl.two_mul_bound_lt (l.size - 1)
    rw [Nat.sub_add_cancel hl.size_pos] at hhalf
    rw [Nat.min_eq_right hi, hl.liesIn_size_iff, standIn_of_size_le hi]
    split
    · linarith
    · next hzero => exact hmax.resolve_left hzero
  · rw [Nat.min_eq_left (by omega)]
    cases i with
    | zero =>
      rw [hl.liesIn_zero_iff, hl.standIn_zero]
      split
      · exact le_refl _
      · next hzero => exact hmin.resolve_left hzero
    | succ i =>
      have hpos := hl.bound_pos i
      have hnext := hl.two_mul_bound_lt i
      rw [liesIn_succ_iff (by omega), standIn_succ (by omega)]
      constructor
      · linarith
      · intro
        linarith

/-- So the value that stands for a bucket lies in no other one. -/
theorem Rises.liesIn_standIn_iff (hl : l.Rises) (hmin : d.minimum = 0 ∨ d.minimum ≤ l.bound 0)
    (hmax : d.maximum = 0 ∨ l.bound (l.size - 1) < d.maximum) {i j : Nat} (hj : j ≤ l.size) :
    l.LiesIn j (l.standIn d i) ↔ j = min i l.size := by
  have hin := hl.liesIn_standIn hmin hmax i
  constructor
  · intro h
    exact (hl.existsUnique_liesIn _).unique ⟨hj, h⟩ ⟨Nat.min_le_right i l.size, hin⟩
  · rintro rfl
    exact hin

/-- Zero is the one value that counts as not told. -/
theorem same_whole_zero (x : Rat) : Reckoning.same x (Reckoning.whole 0) = decide (x = 0) :=
  rfl

/-- The first bucket has a value. -/
theorem Rises.firstValue_eq (hl : l.Rises) :
    firstValue l.bounds d.minimum = .ok (l.standIn d 0) := by
  rw [firstValue, hl.head?_bounds, hl.standIn_zero, same_whole_zero]
  by_cases hzero : d.minimum = 0
  · rw [if_pos (decide_eq_true hzero), if_pos hzero]
  · rw [if_neg (by rwa [decide_eq_true_iff]), if_neg hzero]

/-- So has what comes after the last bound. -/
theorem Rises.lastValue_eq (hl : l.Rises) {i : Nat} (hi : l.size ≤ i) :
    l.lastValue l.bounds d.maximum = .ok (l.standIn d i) := by
  have hhalf : l.bound (l.size - 1) * l.growth / Reckoning.whole 2 = l.bound l.size / 2 := by
    rw [← bound_succ, Nat.sub_add_cancel hl.size_pos]
    rfl
  rw [lastValue, hl.getLast?_bounds, standIn_of_size_le hi, same_whole_zero]
  by_cases hzero : d.maximum = 0
  · rw [if_pos (decide_eq_true hzero), if_pos hzero]
    exact congrArg Except.ok hhalf
  · rw [if_neg (by rwa [decide_eq_true_iff]), if_neg hzero]

/-- Every bucket has a value. -/
theorem Rises.bucketValue_eq (hl : l.Rises) (i : Nat) :
    l.bucketValue l.bounds (l.standIn d 0) d.maximum i = .ok (l.standIn d i) := by
  by_cases hi : l.size ≤ i
  · rw [bucketValue, getElem?_bounds_of_size_le hi]
    exact hl.lastValue_eq hi
  · rw [bucketValue, getElem?_bounds (Nat.not_le.mp hi)]
    cases i with
    | zero => rfl
    | succ i =>
      have hmiddle : l.bound i + (l.bound (i + 1) - l.bound i) / 2 =
          (l.bound i + l.bound (i + 1)) / 2 := by
        ring
      simp only [getElem?_bounds (show i < l.size by omega)]
      rw [standIn_succ (by omega)]
      exact congrArg Except.ok hmiddle

theorem samplesFrom_eq {bounds : List Rat} {first maximum : Rat} {value : Nat → Rat}
    (h : ∀ i, l.bucketValue bounds first maximum i = .ok (value i)) (start : Nat)
    (counts : List Int64) :
    l.samplesFrom bounds first maximum start counts = .ok (spread value start counts) := by
  induction counts generalizing start with
  | nil => rfl
  | cons c counts ih =>
    rw [samplesFrom, h, ih, spread_cons]
    rfl

/-- Layouts are the same if their numbers are. -/
theorem same_iff {m : ExponentialBuckets Rat} : l.same m = true ↔ l = m := by
  obtain ⟨count, growth, scale⟩ := l
  obtain ⟨count', growth', scale'⟩ := m
  simp only [same, Reckoning.same, Bool.and_eq_true, beq_iff_eq, mk.injEq, and_assoc]

/-- A distribution has the layout or it does not. -/
theorem any_same_iff : d.buckets.any l.same = true ↔ d.buckets = some l := by
  rw [Option.any_eq_true]
  constructor
  · rintro ⟨m, hm, hsame⟩
    rw [hm, same_iff.mp hsame]
  · intro h
    exact ⟨l, h, same_iff.mpr rfl⟩

/-- A distribution with other buckets, or none, has no samples. -/
theorem samples_of_ne (h : d.buckets ≠ some l) : l.samples d = .error .otherLayout := by
  have hother : d.buckets.any l.same = false := Bool.eq_false_iff.mpr (mt any_same_iff.mp h)
  rw [samples, hother]
  rfl

/-- The samples of a distribution with the layout are the values that stand for its buckets. -/
theorem Rises.samples_eq (hl : l.Rises) (h : d.buckets = some l) :
    l.samples d = .ok (spread (l.standIn d) 0 d.bucketCounts) := by
  have hsame : d.buckets.any l.same = true := any_same_iff.mpr h
  calc l.samples d
      = (firstValue l.bounds d.minimum >>= fun first =>
          l.samplesFrom l.bounds first d.maximum 0 d.bucketCounts) := by rw [samples, hsame]; rfl
    _ = l.samplesFrom l.bounds (l.standIn d 0) d.maximum 0 d.bucketCounts := by
        rw [hl.firstValue_eq]; rfl
    _ = .ok (spread (l.standIn d) 0 d.bucketCounts) := samplesFrom_eq hl.bucketValue_eq 0 _

/-- A distribution with other buckets than a layout, or none, has no samples. Let a layout have
at least one bound, a positive first bound and a growth of more than two. Every distribution with
these buckets has samples, whatever its counts: as many for each bucket as it counts, in the
buckets' order, where negative counts are zero. If the minimum is zero or up to the first bound
and the maximum is zero or above the last one, then sorting the samples into the buckets gives
the counts again, and in the bucket above the last bound the sum of all counts that come after
those of the bounds. -/
theorem samples_sort_back (l : ExponentialBuckets Rat) (d : Distribution Rat) :
    (d.buckets ≠ some l → l.samples d = .error .otherLayout) ∧
    (l.Rises → d.buckets = some l → ∃ xs, l.samples d = .ok xs ∧
      xs.length = (d.bucketCounts.map Int64.toNatClampNeg).sum ∧
      xs = d.bucketCounts.zipIdx.flatMap (fun (c, i) =>
        List.replicate c.toNatClampNeg (l.standIn d i)) ∧
      ((d.minimum = 0 ∨ ∀ b ∈ l.bounds.head?, d.minimum ≤ b) →
        (d.maximum = 0 ∨ ∀ b ∈ l.bounds.getLast?, b < d.maximum) →
        (∀ i < l.size, xs.countP (l.LiesIn i) = (d.bucketCounts[i]?.getD 0).toNatClampNeg) ∧
        xs.countP (l.LiesIn l.size) =
          ((d.bucketCounts.drop l.size).map Int64.toNatClampNeg).sum)) := by
  refine ⟨samples_of_ne, fun hl h => ⟨_, hl.samples_eq h, length_spread, rfl, ?_⟩⟩
  intro hmin hmax
  rw [hl.head?_bounds] at hmin
  rw [hl.getLast?_bounds] at hmax
  simp only [Option.mem_some, forall_eq'] at hmin hmax
  constructor
  · intro i hi
    refine countP_spread_of_eq fun j _ => ?_
    rw [decide_eq_true_iff, hl.liesIn_standIn_iff hmin hmax hi.le]
    omega
  · refine countP_spread_of_le fun j _ => ?_
    rw [decide_eq_true_iff, hl.liesIn_standIn_iff hmin hmax le_rfl]
    omega

/-- Two bounds, one and ten. -/
def oneAndTen : ExponentialBuckets Rat := ⟨2, 10, 1⟩

/-- Counts of either sign, and more of them than the two bounds make buckets. -/
def lopsided : Distribution Rat where
  count := 6
  mean := 30
  minimum := 1 / 2
  maximum := 0
  bucketCounts := [2, -1, 1, 3]
  buckets := some oneAndTen

/-- What is counted above the second bound is found in one bucket there. -/
theorem samples_sort_back_lopsided :
    oneAndTen.Rises ∧
    (∃ xs, oneAndTen.samples lopsided = .ok xs ∧ xs.length = 6 ∧
      xs.countP (oneAndTen.LiesIn 0) = 2 ∧ xs.countP (oneAndTen.LiesIn 1) = 0 ∧
      xs.countP (oneAndTen.LiesIn 2) = 4) ∧
    oneAndTen.samples { lopsided with buckets := none } = .error .otherLayout := by
  have hrises : oneAndTen.Rises := ⟨by decide, by decide, by decide⟩
  have hmin : ∀ b ∈ oneAndTen.bounds.head?, lopsided.minimum ≤ b := by
    have hbound : oneAndTen.bound 0 = 1 := by
      rw [bound, pow_zero, mul_one]
      rfl
    rw [hrises.head?_bounds, hbound]
    simp only [Option.mem_some, forall_eq', lopsided]
    norm_num
  obtain ⟨xs, hxs, hcount, -, hsorted⟩ := (samples_sort_back oneAndTen lopsided).2 hrises rfl
  obtain ⟨hin, habove⟩ := hsorted (.inr hmin) (.inl rfl)
  exact ⟨hrises, ⟨xs, hxs, hcount, hin 0 (by decide), hin 1 (by decide), habove⟩,
    (samples_sort_back oneAndTen _).1 nofun⟩

end ExponentialBuckets

end ServiceControl
