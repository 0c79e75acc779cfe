import Mathlib.Data.List.Basic

/-!
# Bytes of texts

The bytes of a text are those of its characters, one after another. A character of ASCII is one byte
below 128; all bytes of other characters are larger.
-/

namespace ServiceControl.Text

/-- The bytes of characters. -/
def bytesOf (cs : List Char) : List UInt8 := cs.flatMap String.utf8EncodeChar

theorem loop_toList (bytes : ByteArray) (i : Nat) (before : List UInt8) :
    ByteArray.toList.loop bytes i before = before.reverse ++ bytes.data.toList.drop i := by
  rw [ByteArray.toList.loop.eq_def]
  split
  · next h =>
    have h' : i < bytes.data.toList.length := by simpa using h
    have hget : bytes.get! i = bytes.data.toList[i] := by
      show bytes.data[i]! = _
      simp [getElem!_pos bytes.data i (by simpa using h)]
    rw [loop_toList, hget, List.drop_eq_getElem_cons h', List.reverse_cons, List.append_assoc,
      List.singleton_append]
  · next h =>
    rw [List.drop_eq_nil_of_le (by simpa using h), List.append_nil]
termination_by bytes.size - i

/-- The bytes of a text are those of its characters. -/
theorem toUTF8_eq (s : String) : s.toUTF8 = (bytesOf s.toList).toByteArray := by
  rw [String.toUTF8_eq_toByteArray, ← String.utf8Encode_toList]
  rfl

theorem toList_toUTF8 (s : String) : s.toUTF8.toList = bytesOf s.toList := by
  rw [ByteArray.toList, loop_toList, toUTF8_eq, List.toList_data_toByteArray]
  rfl

/-- A text is read from its bytes. -/
theorem fromUTF8?_bytesOf (s : String) :
    String.fromUTF8? (bytesOf s.toList).toByteArray = some s := by
  rw [← toUTF8_eq, String.toUTF8_eq_toByteArray, String.fromUTF8?, dif_pos s.isValidUTF8]
  rfl

@[simp] theorem bytesOf_append (a b : List Char) : bytesOf (a ++ b) = bytesOf a ++ bytesOf b :=
  List.flatMap_append

@[simp] theorem bytesOf_singleton (c : Char) : bytesOf [c] = String.utf8EncodeChar c :=
  List.flatMap_singleton ..

/-- Every character has a byte. -/
theorem utf8EncodeChar_ne_nil (c : Char) : String.utf8EncodeChar c ≠ [] := by
  rw [String.utf8EncodeChar.eq_def]
  dsimp only
  split_ifs <;> exact List.cons_ne_nil _ _

/-- An ASCII character is one byte. -/
theorem utf8EncodeChar_ascii {c : Char} (h : c.toNat < 128) :
    String.utf8EncodeChar c = [UInt8.ofNat c.toNat] :=
  if_pos (Nat.le_of_lt_succ h)

/-- All bytes of other characters are large. -/
theorem le_of_mem_utf8EncodeChar {c : Char} (h : ¬ c.toNat < 128) {b : UInt8}
    (hb : b ∈ String.utf8EncodeChar c) : 128 ≤ b := by
  have hlarge (n lo : Nat) (hlo : 128 ≤ lo) (hn : n + lo < 256) : 128 ≤ UInt8.ofNat (n + lo) := by
    rw [UInt8.le_iff_toNat_le, UInt8.toNat_ofNat_of_lt' hn]
    exact Nat.le_trans hlo (Nat.le_add_left lo n)
  have hfirst : ¬ c.val.toNat ≤ 127 := fun hle => h (Nat.lt_succ_of_le hle)
  have hmod (n k : Nat) (hk : 0 < k) : n % k < k := Nat.mod_lt n hk
  rw [String.utf8EncodeChar.eq_def] at hb
  simp only [hfirst, if_false] at hb
  split at hb
  · rcases List.mem_pair.mp hb with rfl | rfl
    · exact hlarge _ _ (by decide) (by omega)
    · exact hlarge _ _ (by decide) (by omega)
  · split at hb <;> simp only [List.mem_cons, List.not_mem_nil, or_false] at hb
    · rcases hb with rfl | rfl | rfl <;> exact hlarge _ _ (by decide) (by omega)
    · rcases hb with rfl | rfl | rfl | rfl <;> exact hlarge _ _ (by decide) (by omega)

end ServiceControl.Text
