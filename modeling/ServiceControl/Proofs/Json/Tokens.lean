import Mathlib.Data.List.Basic
import ServiceControl.Json.Term
import ServiceControl.Json.Writer
import ServiceControl.Text.Bytes

/-!
# Written texts and numbers

Between the quotes of a written text stand the bytes of its characters, the special ones escaped.
Reading takes bytes for themselves and turns each escape into the byte or the code unit that it was
made from, so the bytes of the text come out. A number is a run of digits without a needless zero,
which is read up to the next byte that is no digit.
-/

namespace ServiceControl.Json

open Text

/-! ### Texts -/

/-- How a character is read behind a quote. -/
def piecesOf (c : Char) : List Piece :=
  if c.toNat < 32 ∧ c ∉ ['\n', '\r', '\t'] ∧ c.toNat ≠ 8 ∧ c.toNat ≠ 12 then [.unit c.toNat]
  else (String.utf8EncodeChar c).map .byte

/-- A byte that is neither special nor a control character stands for itself. -/
theorem string?_byte {b : UInt8} (hquote : b ≠ 34) (hback : b ≠ 92) (hcontrol : ¬ b < 32)
    (r : List UInt8) :
    Term.string? (b :: r) = (Term.string? r).map fun (ps, r) => (.byte b :: ps, r) := by
  rw [Term.string?.eq_def]
  split
  · next h => cases h
  · next h => exact absurd (List.cons.inj h).1 hquote
  · next h => exact absurd (List.cons.inj h).1 hback
  · next h => exact absurd (List.cons.inj h).1 hback
  · next h =>
    obtain ⟨rfl, rfl⟩ := List.cons.inj h
    have hplain : (decide (b < 32) || b == 92) = false := by simp [hcontrol, hback]
    simp only [hplain, Bool.false_eq_true, if_false]
    cases Term.string? r <;> rfl

/-- Such bytes stand for themselves, however many there are. -/
theorem string?_bytes {bs : List UInt8} (h : ∀ b ∈ bs, b ≠ 34 ∧ b ≠ 92 ∧ ¬ b < 32)
    (r : List UInt8) :
    Term.string? (bs ++ r) = (Term.string? r).map fun (ps, r) => (bs.map .byte ++ ps, r) := by
  induction bs with
  | nil => simp
  | cons b bs ih =>
    obtain ⟨hquote, hback, hcontrol⟩ := h b List.mem_cons_self
    rw [List.cons_append, string?_byte hquote hback hcontrol,
      ih fun x hx => h x (List.mem_cons_of_mem _ hx), Option.map_map]
    rfl

/-- An escape of one letter stands for one byte. -/
theorem string?_escape {e b : UInt8} (he : e ≠ 117) (hb : Term.escape? e = some b)
    (r : List UInt8) :
    Term.string? (92 :: e :: r) = (Term.string? r).map fun (ps, r) => (.byte b :: ps, r) := by
  rw [Term.string?.eq_def]
  split
  · next h => cases h
  · next h => exact absurd (List.cons.inj h).1 (by decide)
  · next h => exact absurd (List.cons.inj (List.cons.inj h).2).1 he
  · next h =>
    obtain ⟨-, h⟩ := List.cons.inj h
    obtain ⟨rfl, rfl⟩ := List.cons.inj h
    simp only [hb]
    cases Term.string? r <;> rfl
  · next hnone h =>
    obtain ⟨hb, hr⟩ := List.cons.inj h
    exact absurd hr.symm (hnone e r hb.symm)

/-- An escape of four digits stands for one code unit. -/
theorem string?_unit {a b c d : UInt8} {n : Nat} (hn : Term.unit? a b c d = some n)
    (r : List UInt8) :
    Term.string? (92 :: 117 :: a :: b :: c :: d :: r) =
      (Term.string? r).map fun (ps, r) => (.unit n :: ps, r) := by
  rw [Term.string?, hn]
  cases Term.string? r <;> rfl

/-- The byte of a small hexadecimal digit. -/
def hexByte (n : Nat) : UInt8 := UInt8.ofNat (Hex.digit n).toNat

/-- The escape of a control character has its four digits. -/
theorem escape_control :
    ∀ n : Fin 32, bytesOf ['\\', 'u', '0', '0', Hex.digit (n / 16), Hex.digit (n % 16)] =
        [92, 117, 48, 48, hexByte (n / 16), hexByte (n % 16)] ∧
      Term.unit? 48 48 (hexByte (n / 16)) (hexByte (n % 16)) = some n.val := by
  decide

/-- A character that needs no escape has none of the bytes that do. -/
theorem plain_of_mem_utf8EncodeChar {c : Char} (hquote : c ≠ '"') (hback : c ≠ '\\')
    (hcontrol : ¬ c.toNat < 32) : ∀ b ∈ String.utf8EncodeChar c, b ≠ 34 ∧ b ≠ 92 ∧ ¬ b < 32 := by
  intro b hb
  by_cases h : c.toNat < 128
  · have hnat : b.toNat = c.toNat := by
      rw [utf8EncodeChar_ascii h] at hb
      rw [List.mem_singleton.mp hb, UInt8.toNat_ofNat_of_lt' (Nat.lt_trans h (by decide))]
    have hne {d : Char} (hd : c ≠ d) : b.toNat ≠ d.toNat := fun heq =>
      hd (Char.toNat_inj.mp (hnat.symm.trans heq))
    refine ⟨fun heq => hne hquote (by rw [heq]; rfl), fun heq => hne hback (by rw [heq]; rfl), ?_⟩
    rw [UInt8.lt_iff_toNat_lt, hnat]
    exact hcontrol
  · have hlarge := UInt8.le_iff_toNat_le.mp (le_of_mem_utf8EncodeChar h hb)
    refine ⟨?_, ?_, fun hlt => ?_⟩
    · rintro rfl
      exact absurd hlarge (by decide)
    · rintro rfl
      exact absurd hlarge (by decide)
    · have hlt := UInt8.lt_iff_toNat_lt.mp hlt
      exact absurd (Nat.lt_of_le_of_lt hlarge hlt) (by decide)

/-- What an escaped character is read as. -/
theorem string?_escaped (c : Char) (r : List UInt8) :
    Term.string? (bytesOf (escaped c) ++ r) =
      (Term.string? r).map fun (ps, r) => (piecesOf c ++ ps, r) := by
  have hchar {n : Nat} (h : c.toNat = n) : c = Char.ofNat n := by rw [← h, Char.ofNat_toNat]
  unfold escaped
  split
  · next h => subst h; exact string?_escape (by decide) rfl r
  split
  · next h => subst h; exact string?_escape (by decide) rfl r
  split
  · next h => rw [hchar h]; exact string?_escape (by decide) rfl r
  split
  · next h => rw [hchar h]; exact string?_escape (by decide) rfl r
  split
  · next h => subst h; exact string?_escape (by decide) rfl r
  split
  · next h => subst h; exact string?_escape (by decide) rfl r
  split
  · next h => subst h; exact string?_escape (by decide) rfl r
  split
  · next hquote hback h8 h12 hn hr ht hcontrol =>
    have hpieces : piecesOf c = [.unit c.toNat] := by
      simp only [piecesOf, hcontrol, List.mem_cons, hn, hr, ht, List.not_mem_nil, or_self,
        not_false_eq_true, ne_eq, h8, h12, and_self, if_true]
    obtain ⟨hbytes, hunit⟩ := escape_control ⟨c.toNat, hcontrol⟩
    rw [hbytes, hpieces]
    exact string?_unit hunit r
  · next hquote hback h8 h12 hn hr ht hcontrol =>
    have hpieces : piecesOf c = (String.utf8EncodeChar c).map .byte :=
      if_neg fun h => hcontrol h.1
    have hplain := plain_of_mem_utf8EncodeChar hquote hback hcontrol
    rw [hpieces, bytesOf_singleton, string?_bytes hplain]

/-- A written text is read as the pieces of its characters. -/
theorem string?_flatMap_escaped (cs : List Char) (r : List UInt8) :
    Term.string? (bytesOf (cs.flatMap escaped) ++ 34 :: r) = some (cs.flatMap piecesOf, r) := by
  induction cs with
  | nil => rfl
  | cons c cs ih =>
    rw [List.flatMap_cons, bytesOf_append, List.append_assoc, string?_escaped, ih]
    rfl

/-- Bytes stand for themselves. -/
theorem bytes?_map_byte (bs : List UInt8) (ps : List Piece) :
    Piece.bytes? (bs.map .byte ++ ps) = (Piece.bytes? ps).map (bs ++ ·) := by
  induction bs with
  | nil => simp
  | cons b bs ih =>
    rw [List.map_cons, List.cons_append, Piece.bytes?, ih, Option.map_map]
    rfl

/-- A code unit below the surrogates stands for its character. -/
theorem bytes?_unit {n : Nat} (h : n < 0xD800) (ps : List Piece) :
    Piece.bytes? (.unit n :: ps) =
      (Piece.bytes? ps).map (String.utf8EncodeChar (Char.ofNat n) ++ ·) := by
  have hbytes : (String.singleton (Char.ofNat n)).toUTF8.toList =
      String.utf8EncodeChar (Char.ofNat n) := by
    rw [toList_toUTF8, String.toList_singleton, bytesOf_singleton]
  have hhigh : ¬ (0xD800 ≤ n ∧ n < 0xDC00) := by omega
  have hlow : ¬ (0xDC00 ≤ n ∧ n < 0xE000) := by omega
  have hany : ¬ (0xD800 ≤ n ∧ n < 0xE000) := by omega
  match ps with
  | [] => conv_lhs => rw [Piece.bytes?.eq_def]; simp only [if_neg hany, hbytes]
  | .byte b :: ps => conv_lhs => rw [Piece.bytes?.eq_def]; simp only [if_neg hany, hbytes]
  | .unit m :: ps => rw [Piece.bytes?, if_neg hhigh, if_neg hlow, hbytes]

/-- The pieces of a character have its bytes. -/
theorem bytes?_piecesOf (c : Char) (ps : List Piece) :
    Piece.bytes? (piecesOf c ++ ps) = (Piece.bytes? ps).map (String.utf8EncodeChar c ++ ·) := by
  unfold piecesOf
  split
  · next h => rw [List.singleton_append, bytes?_unit (by omega), Char.ofNat_toNat]
  · exact bytes?_map_byte _ ps

/-- The pieces of a text's characters are the text. -/
theorem text?_flatMap_piecesOf (s : String) : Piece.text? (s.toList.flatMap piecesOf) = some s := by
  have hbytes (cs : List Char) : Piece.bytes? (cs.flatMap piecesOf) = some (bytesOf cs) := by
    induction cs with
    | nil => rfl
    | cons c cs ih => rw [List.flatMap_cons, bytes?_piecesOf, ih]; rfl
  simp only [Piece.text?, hbytes, bind, Option.bind_some, fromUTF8?_bytesOf]

/-! ### Numbers -/

/-- What may follow a value: a comma, a closing bracket, or nothing. -/
def EndsValue (r : List UInt8) : Prop :=
  r = [] ∨ ∃ rest, r = 44 :: rest ∨ r = 93 :: rest ∨ r = 125 :: rest

/-- A run of digits is read up to its end. -/
theorem digits?_append {bs : List UInt8} (hne : bs ≠ []) (hdigits : ∀ b ∈ bs, Term.isDigit b = true)
    {r : List UInt8} (hr : EndsValue r) :
    Term.digits? (bs ++ r) = some (bs.map (·.toNat - 48), r) := by
  have htake : r.takeWhile Term.isDigit = [] := by
    rcases hr with rfl | ⟨rest, rfl | rfl | rfl⟩ <;> rfl
  have hdrop : r.dropWhile Term.isDigit = r := by
    rcases hr with rfl | ⟨rest, rfl | rfl | rfl⟩ <;> rfl
  have hempty : bs.isEmpty = false := List.isEmpty_eq_false_iff.mpr hne
  simp only [Term.digits?, List.takeWhile_append_of_pos hdigits,
    List.dropWhile_append_of_pos hdigits, htake, hdrop, List.append_nil, hempty,
    Bool.false_eq_true, if_false]

theorem toNat_le_of_mem_repr {n : Nat} {c : Char} (hc : c ∈ n.repr.toList) :
    48 ≤ c.toNat ∧ c.toNat ≤ 57 := by
  have hdigit := Text.isDigit_of_mem_repr hc
  simp only [Char.isDigit, ge_iff_le, Bool.and_eq_true, decide_eq_true_eq,
    UInt32.le_iff_toNat_le] at hdigit
  exact hdigit

/-- Each digit is one byte. -/
theorem bytesOf_repr (n : Nat) :
    bytesOf n.repr.toList = n.repr.toList.map fun c => UInt8.ofNat c.toNat := by
  rw [bytesOf, List.map_eq_flatMap]
  refine List.flatMap_congr fun c hc => utf8EncodeChar_ascii ?_
  have hle := toNat_le_of_mem_repr hc
  omega

theorem bytesOf_repr_ne_nil (n : Nat) : bytesOf n.repr.toList ≠ [] := by
  rw [bytesOf_repr, Nat.repr_eq_ofList_toDigits, String.toList_ofList]
  exact fun hnil => Nat.toDigits_ne_nil (List.map_eq_nil_iff.mp hnil)

theorem isDigit_of_mem_bytesOf_repr {n : Nat} {b : UInt8} (hb : b ∈ bytesOf n.repr.toList) :
    Term.isDigit b = true := by
  rw [bytesOf_repr] at hb
  obtain ⟨c, hc, rfl⟩ := List.mem_map.mp hb
  have hle := toNat_le_of_mem_repr hc
  have hnat : (UInt8.ofNat c.toNat).toNat = c.toNat :=
    UInt8.toNat_ofNat_of_lt' (Nat.lt_of_le_of_lt hle.2 (by decide))
  simp only [Term.isDigit, Bool.and_eq_true, decide_eq_true_eq, UInt8.le_iff_toNat_le, hnat]
  exact hle

/-- The digits of a number have its value. -/
theorem value_bytesOf_repr (n : Nat) :
    Numeral.value ((bytesOf n.repr.toList).map (·.toNat - 48)) = n := by
  have hdigits : (bytesOf n.repr.toList).map (·.toNat - 48) =
      n.repr.toList.map fun c => c.toNat - '0'.toNat := by
    rw [bytesOf_repr, List.map_map]
    refine List.map_congr_left fun c hc => ?_
    have hle := toNat_le_of_mem_repr hc
    rw [Function.comp_apply, UInt8.toNat_ofNat_of_lt' (Nat.lt_of_le_of_lt hle.2 (by decide))]
    rfl
  have hvalue : Numeral.value (n.repr.toList.map fun c => c.toNat - '0'.toNat) =
      Nat.ofDigitChars 10 n.repr.toList 0 := by
    simp only [Numeral.value, List.foldl_map, Nat.ofDigitChars, Nat.mul_comm]
  rw [hdigits, hvalue, Nat.repr_eq_ofList_toDigits, String.toList_ofList,
    Nat.ofDigitChars_ten_toDigits]

/-- A number that is not zero does not begin with a zero. -/
theorem head?_toDigits {n : Nat} (h : n ≠ 0) : (Nat.toDigits 10 n).head? ≠ some '0' := by
  induction n using Nat.strongRecOn with
  | ind n ih =>
    by_cases hn : n < 10
    · have hdigit : ∀ m : Fin 10, m.val ≠ 0 → m.val.digitChar ≠ '0' := by decide
      rw [Nat.toDigits_of_lt_base hn, List.head?_cons]
      exact fun heq => hdigit ⟨n, hn⟩ h (Option.some.inj heq)
    · have hrest := ih (n / 10) (by omega) (by omega)
      rwa [Nat.toDigits_of_base_le (by decide) (by omega),
        List.head?_append_of_ne_nil _ Nat.toDigits_ne_nil]

/-- The digits of a number are read as the digits before the point. -/
theorem whole?_repr (n : Nat) {r : List UInt8} (hr : EndsValue r) :
    Term.whole? (bytesOf n.repr.toList ++ r) =
      some ((bytesOf n.repr.toList).map (·.toNat - 48), r) := by
  by_cases hn : n = 0
  · subst hn
    rcases hr with rfl | ⟨rest, rfl | rfl | rfl⟩ <;> rfl
  · -- the first digit is no zero, so the whole run is read
    have hfirst : (bytesOf n.repr.toList).head? ≠ some 48 := by
      rw [bytesOf_repr, List.head?_map]
      intro hhead
      obtain ⟨c, hc, hbyte⟩ := Option.map_eq_some_iff.mp hhead
      have hle := toNat_le_of_mem_repr (List.mem_of_mem_head? hc)
      have hzero : c.toNat = '0'.toNat := by
        rw [← UInt8.toNat_ofNat_of_lt' (Nat.lt_of_le_of_lt hle.2 (by decide)), hbyte]
        rfl
      rw [Char.toNat_inj.mp hzero, Nat.repr_eq_ofList_toDigits, String.toList_ofList] at hc
      exact head?_toDigits hn hc
    have hne := bytesOf_repr_ne_nil n
    rw [Term.whole?.eq_def]
    split
    · next h =>
      rw [← List.head?_append_of_ne_nil _ hne, h] at hfirst
      exact absurd rfl hfirst
    · exact digits?_append hne (fun b hb => isDigit_of_mem_bytesOf_repr hb) hr

/-- The digits of a number are read as a numeral with its value. -/
theorem numeral?_repr (negative : Bool) (n : Nat) {r : List UInt8} (hr : EndsValue r) :
    ∃ digits, Numeral.value digits = n ∧
      Term.numeral? negative (bytesOf n.repr.toList ++ r) =
        some (.number ⟨negative, digits, none, none⟩, r) := by
  refine ⟨_, value_bytesOf_repr n, ?_⟩
  have hfraction : Term.fraction? r = some (none, r) := by
    rcases hr with rfl | ⟨rest, rfl | rfl | rfl⟩ <;> rfl
  have hexponent : Term.exponent? r = some (none, r) := by
    rcases hr with rfl | ⟨rest, rfl | rfl | rfl⟩ <;> rfl
  simp only [Term.numeral?, whole?_repr n hr, hfraction, hexponent, bind, Option.bind_some, pure]

end ServiceControl.Json
