import ServiceControl.Net.Network

/-!
# Networks hold what has their leading bits

A mask of leading bits is computed on 128 bits for both families, with shifts and differences that
would go wrong at a width or below zero. For the lengths of networks they never do, and the mask has
just the leading bits of its width. So an address belongs to a network if it is of the network's
family and agrees with its address on as many leading bits as the network is long, and networks with
fewer leading bits hold more.
-/

namespace ServiceControl.Net

/-- A shift to the left by an amount below the width. -/
def shiftLeft? {w : Nat} (x : BitVec w) (amount : Nat) : Option (BitVec w) :=
  if amount < w then some (x <<< amount) else none

/-- A difference that is not below zero. -/
def difference? {w : Nat} (x y : BitVec w) : Option (BitVec w) :=
  if y ≤ x then some (x - y) else none

/-- The ones below a bit. -/
def onesBelow? (bit : Nat) : Option (BitVec 128) := do difference? (← shiftLeft? 1#128 bit) 1#128

/-- The ones of a width, which at the full width are not got by a shift. -/
def onesOf? (width : BitVec 8) : Option (BitVec 128) :=
  if width = 128 then some (BitVec.allOnes 128) else onesBelow? width.toNat

/-- The mask of the leading bits of a word, given up at the first shift or difference that does not
fit its words. Length and width are words of eight bits. -/
def leadingMask? (length width : BitVec 8) : Option (BitVec 128) :=
  if length = 0 then some 0
  else do
    let all ← onesOf? width
    let low ← onesBelow? (← difference? width length).toNat
    return all &&& ~~~low

/-- A one is shifted to the power of two. -/
theorem toNat_one_shiftLeft {k : Nat} (hk : k < 128) : (1#128 <<< k).toNat = 2 ^ k := by
  have hlt : 2 ^ k < 2 ^ 128 := Nat.pow_lt_pow_right (by decide) hk
  rw [BitVec.toNat_shiftLeft, BitVec.toNat_ofNat, Nat.one_mod_two_pow (by decide),
    Nat.one_shiftLeft, Nat.mod_eq_of_lt hlt]

/-- There is a one to take from every power of two. -/
theorem one_le_one_shiftLeft {k : Nat} (hk : k < 128) : 1#128 ≤ 1#128 <<< k := by
  rw [BitVec.le_def, toNat_one_shiftLeft hk]
  exact Nat.one_le_two_pow

/-- The bits of one less than a power of two are those below it. -/
theorem getLsbD_one_shiftLeft_sub_one {k : Nat} (hk : k < 128) (i : Nat) :
    ((1#128 <<< k) - 1#128).getLsbD i = decide (i < k) := by
  have hvalue : ((1#128 <<< k) - 1#128).toNat = 2 ^ k - 1 := by
    rw [BitVec.toNat_sub_of_le (one_le_one_shiftLeft hk), toNat_one_shiftLeft hk]
    rfl
  rw [BitVec.getLsbD, hvalue, Nat.testBit_two_pow_sub_one]

/-- A mask has the leading bits of its width. -/
theorem getLsbD_leadingMask {length width i : Nat} (hlength : length ≤ width)
    (hwidth : width ≤ 128) (hi : i < width) :
    (leadingMask length width).getLsbD i = decide (width ≤ i + length) := by
  by_cases hzero : length = 0
  · have hout : ¬width ≤ i + length := by omega
    rw [leadingMask, if_pos hzero, decide_eq_false hout]
    exact BitVec.getLsbD_zero
  · have hall : (if width = 128 then BitVec.allOnes 128
        else (1#128 <<< width) - 1#128).getLsbD i = true := by
      split
      · rw [BitVec.getLsbD_allOnes, decide_eq_true (by omega)]
      · rw [getLsbD_one_shiftLeft_sub_one (by omega), decide_eq_true hi]
    have hlow : ((1#128 <<< (width - length)) - 1#128).getLsbD i = decide (i < width - length) :=
      getLsbD_one_shiftLeft_sub_one (by omega) i
    have hi' : i < 128 := by omega
    rw [leadingMask, if_neg hzero, BitVec.getLsbD_and, hall, BitVec.getLsbD_not, hlow,
      decide_eq_true hi', Bool.true_and, Bool.true_and, ← decide_not]
    exact decide_eq_decide.mpr (by omega)

/-- The ones below a bit of the word are computed without going wrong. -/
theorem onesBelow?_eq {k : Nat} (hk : k < 128) : onesBelow? k = some ((1#128 <<< k) - 1#128) := by
  rw [onesBelow?, shiftLeft?, if_pos hk]
  exact if_pos (one_le_one_shiftLeft hk)

/-- So are the ones of a width. -/
theorem onesOf?_eq {width : Nat} (hwidth : width ≤ 128) : onesOf? (BitVec.ofNat 8 width) =
    some (if width = 128 then BitVec.allOnes 128 else (1#128 <<< width) - 1#128) := by
  have hw : (BitVec.ofNat 8 width).toNat = width := Nat.mod_eq_of_lt (by omega)
  have hfull : BitVec.ofNat 8 width = 128 ↔ width = 128 := by
    rw [← BitVec.toNat_inj, hw]
    rfl
  rw [onesOf?, hw]
  by_cases hlast : width = 128
  · rw [if_pos (hfull.mpr hlast), if_pos hlast]
  · rw [if_neg (mt hfull.mp hlast), if_neg hlast]
    exact onesBelow?_eq (by omega)

/-- In the computation of a mask no shift reaches the width of its word and no difference goes below
zero, for both families and all their lengths. -/
theorem leadingMask?_eq {length width : Nat} (hlength : length ≤ width) (hwidth : width ≤ 128) :
    leadingMask? (BitVec.ofNat 8 length) (BitVec.ofNat 8 width) =
      some (leadingMask length width) := by
  have hl : (BitVec.ofNat 8 length).toNat = length := Nat.mod_eq_of_lt (by omega)
  have hw : (BitVec.ofNat 8 width).toNat = width := Nat.mod_eq_of_lt (by omega)
  have hzero : BitVec.ofNat 8 length = 0 ↔ length = 0 := by
    rw [← BitVec.toNat_inj, hl]
    rfl
  by_cases h : length = 0
  · rw [leadingMask?, if_pos (hzero.mpr h), leadingMask, if_pos h]
  · have hle : BitVec.ofNat 8 length ≤ BitVec.ofNat 8 width := by
      rw [BitVec.le_def, hl, hw]
      exact hlength
    have hrest : (BitVec.ofNat 8 width - BitVec.ofNat 8 length).toNat = width - length := by
      rw [BitVec.toNat_sub_of_le hle, hl, hw]
    have hlow : onesBelow? (BitVec.ofNat 8 width - BitVec.ofNat 8 length).toNat =
        some ((1#128 <<< (width - length)) - 1#128) := by
      rw [hrest]
      exact onesBelow?_eq (by omega)
    -- A length of zero is told apart first: its difference would be a shift by a whole word.
    rw [leadingMask?, if_neg (mt hzero.mp h), onesOf?_eq hwidth, difference?, if_pos hle,
      leadingMask, if_neg h]
    simp only [Option.bind_eq_bind, Option.bind_some, hlow]
    rfl

/-- Words are equal under a mask of leading bits if they have these bits in common. -/
theorem and_eq_and_iff {w length : Nat} {mask : BitVec w} (hlength : length ≤ w)
    (hmask : ∀ i < w, mask.getLsbD i = decide (w ≤ i + length)) (a b : BitVec w) :
    a &&& mask = b &&& mask ↔ ∀ i < length, a.getMsbD i = b.getMsbD i := by
  constructor
  · intro h i hi
    have hbit := congrArg (BitVec.getLsbD · (w - 1 - i)) h
    simp only [BitVec.getLsbD_and, hmask (w - 1 - i) (by omega),
      decide_eq_true (show w ≤ w - 1 - i + length by omega), Bool.and_true] at hbit
    rw [BitVec.getMsbD_eq_getLsbD, BitVec.getMsbD_eq_getLsbD, hbit]
  · intro h
    refine BitVec.eq_of_getLsbD_eq fun i hi => ?_
    rw [BitVec.getLsbD_and, BitVec.getLsbD_and, hmask i hi]
    by_cases hin : w ≤ i + length
    · have hbit := h (w - 1 - i) (by omega)
      rw [BitVec.getMsbD_eq_getLsbD, BitVec.getMsbD_eq_getLsbD,
        show w - 1 - (w - 1 - i) = i by omega] at hbit
      simp only [decide_eq_true (show w - 1 - i < w by omega), Bool.true_and] at hbit
      rw [hbit]
    · simp only [decide_eq_false hin, Bool.and_false]

namespace Address

/-- A bit of an address, counted from the front. -/
def leadingBit : Address → Nat → Bool
  | v4 bits, i => bits.getMsbD i
  | v6 bits, i => bits.getMsbD i

/-- No family has more than 128 bits. -/
theorem width_le (a : Address) : a.width ≤ 128 := by
  cases a with
  | v4 => exact show 32 ≤ 128 by decide
  | v6 => exact Nat.le_refl 128

/-- Two addresses are of one family and have the same leading bits, up to a number of them. -/
structure AgreesUpTo (length : Nat) (a b : Address) : Prop where
  width : b.width = a.width
  bits : ∀ i < length, b.leadingBit i = a.leadingBit i

variable {a b c : Address} {k l : Nat}

/-- Agreement on some bits is agreement on fewer. -/
theorem AgreesUpTo.mono (h : a.AgreesUpTo l b) (hle : k ≤ l) : a.AgreesUpTo k b :=
  ⟨h.width, fun i hi => h.bits i (Nat.lt_of_lt_of_le hi hle)⟩

theorem AgreesUpTo.symm (h : a.AgreesUpTo k b) : b.AgreesUpTo k a :=
  ⟨h.width.symm, fun i hi => (h.bits i hi).symm⟩

theorem AgreesUpTo.trans (h : a.AgreesUpTo k b) (h' : b.AgreesUpTo k c) : a.AgreesUpTo k c :=
  ⟨h'.width.trans h.width, fun i hi => (h'.bits i hi).trans (h.bits i hi)⟩

/-- On no bits all addresses of a family agree. -/
theorem agreesUpTo_zero_iff : a.AgreesUpTo 0 b ↔ b.width = a.width :=
  ⟨AgreesUpTo.width, fun h => ⟨h, nofun⟩⟩

end Address

namespace Network

/-- An address belongs to a network if it agrees with the network's address up to the length. -/
theorem contains_iff (n : Network) (a : Address) :
    n.contains a = true ↔ n.address.AgreesUpTo n.length a := by
  obtain ⟨address, length, hlength⟩ := n
  cases address with
  | v4 net =>
    have hlength : length ≤ 32 := hlength
    cases a with
    | v4 ip =>
      have hmask : ∀ i < 32, ((leadingMask length 32).setWidth 32).getLsbD i =
          decide (32 ≤ i + length) := by
        intro i hi
        rw [BitVec.getLsbD_setWidth, decide_eq_true hi, Bool.true_and,
          getLsbD_leadingMask hlength (by decide) hi]
      have hbits := beq_iff_eq.trans (and_eq_and_iff hlength hmask net ip)
      refine hbits.trans ?_
      exact ⟨fun h => ⟨rfl, fun i hi => (h i hi).symm⟩, fun h i hi => (h.bits i hi).symm⟩
    | v6 ip => exact ⟨nofun, fun h => absurd (show 128 = 32 from h.width) (by decide)⟩
  | v6 net =>
    have hlength : length ≤ 128 := hlength
    cases a with
    | v4 ip => exact ⟨nofun, fun h => absurd (show 32 = 128 from h.width) (by decide)⟩
    | v6 ip =>
      have hmask : ∀ i < 128, (leadingMask length 128).getLsbD i = decide (128 ≤ i + length) :=
        fun i hi => getLsbD_leadingMask hlength (by decide) hi
      have hbits := beq_iff_eq.trans (and_eq_and_iff hlength hmask net ip)
      refine hbits.trans ?_
      exact ⟨fun h => ⟨rfl, fun i hi => (h i hi).symm⟩, fun h i hi => (h.bits i hi).symm⟩

/-- A text that spells a network has its address alone, which is then as long as its family, or the
address before the first slash and the length behind it. -/
def IsSpelledBy (n : Network) (s : String) : Prop :=
  match Text.cut? "/" s with
  | none => Address.parse? (Text.trim s) = some n.address ∧ n.length = n.address.width
  | some (a, l) =>
    Address.parse? (Text.trim a) = some n.address ∧ numberUpTo 255 (Text.trim l) = .ok n.length

/-- Networks are equal if their addresses and their lengths are. -/
theorem eq_iff {m n : Network} : m = n ↔ m.address = n.address ∧ m.length = n.length := by
  obtain ⟨a, k, hk⟩ := m
  obtain ⟨b, l, hl⟩ := n
  exact mk.injEq a k hk b l hl ▸ Iff.rfl

/-- A length is accepted if it is in range. -/
theorem ofLength_eq_ok_iff {s : String} {a : Address} {l : Nat} {n : Network} :
    ofLength s a l = .ok n ↔ a = n.address ∧ l = n.length := by
  rw [ofLength]
  split
  · rw [Except.ok.injEq, eq_iff]
  · next hout =>
    refine ⟨nofun, ?_⟩
    rintro ⟨rfl, rfl⟩
    exact absurd n.length_le hout

/-- The texts that are accepted are the spellings of networks. -/
theorem parse_eq_ok_iff {s : String} {n : Network} : parse s = .ok n ↔ n.IsSpelledBy s := by
  unfold parse IsSpelledBy
  cases Text.cut? "/" s with
  | none =>
    simp only
    cases Address.parse? (Text.trim s) with
    | none => exact ⟨nofun, nofun⟩
    | some a =>
      simp only [Except.ok.injEq, eq_iff, Option.some.injEq]
      exact and_congr_right fun h => by rw [h, eq_comm]
  | some p =>
    obtain ⟨a, l⟩ := p
    simp only
    cases Address.parse? (Text.trim a) with
    | none => exact ⟨nofun, nofun⟩
    | some address =>
      cases numberUpTo 255 (Text.trim l) with
      | error e => exact ⟨nofun, nofun⟩
      | ok k => simp only [ofLength_eq_ok_iff, Option.some.injEq, Except.ok.injEq]

/-- A text without a slash spells an address, at full length. -/
theorem IsSpelledBy.bare {n : Network} {s : String} (h : n.IsSpelledBy s)
    (hslash : '/' ∉ s.toList) :
    Address.parse? (Text.trim s) = some n.address ∧ n.length = n.address.width := by
  have hcut : Text.cut? "/" s = none :=
    Option.map_eq_none_iff.mpr (Text.cutList_eq_none_iff.mpr hslash)
  rw [IsSpelledBy, hcut] at h
  exact h

/-- What stands before the first slash spells the address, and what stands behind it the length as a
number of eight bits. -/
theorem IsSpelledBy.sized {n : Network} {s a l : String} (h : n.IsSpelledBy s)
    (hs : s = a ++ "/" ++ l) (hslash : '/' ∉ a.toList) :
    Address.parse? (Text.trim a) = some n.address ∧
      numberUpTo 255 (Text.trim l) = .ok n.length := by
  have hcut : Text.cut? "/" s = some (a, l) := (Text.cut?_eq_some_iff rfl).mpr ⟨hs, hslash⟩
  rw [IsSpelledBy, hcut] at h
  exact h

/-- For every text that is accepted as a network, the length is at most the width of the address:
equal to it if the text has no slash, and else the number behind the slash. The mask is computed
without a shift by a whole word and without a difference below zero. An address belongs to the
network if and only if it is of the same family and has the same leading bits up to the length:
other bits of the network's address do not matter, a length of zero takes in the whole family, and
the networks of the same address with smaller lengths hold whatever this one holds. -/
theorem holds_leading_bits (s : String) (n : Network) (h : parse s = .ok n) :
    (n.length ≤ match n.address with
      | .v4 _ => 32
      | .v6 _ => 128) ∧
    ('/' ∉ s.toList →
      Address.parse? (Text.trim s) = some n.address ∧ n.length = n.address.width) ∧
    (∀ a l, s = a ++ "/" ++ l → '/' ∉ a.toList →
      Address.parse? (Text.trim a) = some n.address ∧
        numberUpTo 255 (Text.trim l) = .ok n.length) ∧
    leadingMask? (BitVec.ofNat 8 n.length) (BitVec.ofNat 8 n.address.width) =
      some (leadingMask n.length n.address.width) ∧
    (∀ a, n.contains a = true ↔ n.address.AgreesUpTo n.length a) ∧
    (∀ m : Network, m.length = n.length → n.address.AgreesUpTo n.length m.address →
      ∀ a, m.contains a = n.contains a) ∧
    (n.length = 0 → ∀ a, n.contains a = true ↔ a.width = n.address.width) ∧
    ∀ m : Network, m.address = n.address → m.length ≤ n.length →
      ∀ a, n.contains a = true → m.contains a = true := by
  have hspelled := parse_eq_ok_iff.mp h
  refine ⟨?_, hspelled.bare, fun a l => hspelled.sized,
    leadingMask?_eq n.length_le n.address.width_le, n.contains_iff, ?_, ?_, ?_⟩
  · have hle := n.length_le
    revert hle
    cases n.address <;> exact id
  · intro m hlength hagrees a
    rw [Bool.eq_iff_iff, m.contains_iff, n.contains_iff, hlength]
    exact ⟨hagrees.trans, hagrees.symm.trans⟩
  · intro hzero a
    rw [n.contains_iff, hzero]
    exact Address.agreesUpTo_zero_iff
  · intro m haddress hle a ha
    rw [m.contains_iff, haddress]
    exact ((n.contains_iff a).mp ha).mono hle

/-- A network whose address has bits behind its length. -/
def documentation : Network := ⟨.v6 0x20010db800ff00000000000000000001, 33, by decide⟩

/-- It holds the addresses that agree on 33 bits, and the whole family holds what it holds. -/
theorem holds_leading_bits_documentation :
    parse "2001:db8:ff::1/ +33" = .ok documentation ∧
    documentation.contains (.v6 0x20010db87fff00000000000000000000) = true ∧
    ¬documentation.contains (.v6 0x20010db8800000000000000000000000) = true ∧
    ∀ a, documentation.contains a = true →
      contains ⟨documentation.address, 0, Nat.zero_le _⟩ a = true := by
  have h : parse "2001:db8:ff::1/ +33" = .ok documentation := by rfl
  obtain ⟨-, -, -, -, hcontains, -, -, hwider⟩ := holds_leading_bits _ documentation h
  refine ⟨h, (hcontains _).mpr ⟨rfl, by decide +kernel⟩, ?_, hwider _ rfl (Nat.zero_le _)⟩
  intro hin
  exact absurd (((hcontains _).mp hin).bits 32 (by decide)) (by decide +kernel)

end Network

end ServiceControl.Net
