/-!
# ASCII letter case

The case maps of `Char` change ASCII letters only, which is what names in schemas, hosts and header
names ask for. Texts equal up to ASCII case are compared through their lower-case form.
-/

namespace ServiceControl.Text

/-- The text with its ASCII capitals made small. -/
def lower (s : String) : String := s.map Char.toLower

/-- The text with its small ASCII letters made capital. -/
def upper (s : String) : String := s.map Char.toUpper

/-- Two texts are equal up to the case of their ASCII letters. -/
def SameLetters (s t : String) : Prop := lower s = lower t

instance (s t : String) : Decidable (SameLetters s t) := inferInstanceAs (Decidable (_ = _))

theorem SameLetters.symm {s t : String} (h : SameLetters s t) : SameLetters t s := Eq.symm h

theorem SameLetters.trans {s t u : String} (h : SameLetters s t) (h' : SameLetters t u) :
    SameLetters s u := Eq.trans h h'

/-- Texts are compared character by character. -/
theorem sameLetters_iff {s t : String} :
    SameLetters s t ↔ s.toList.map Char.toLower = t.toList.map Char.toLower := by
  rw [SameLetters, ← String.toList_inj, lower, lower, String.toList_map, String.toList_map]

/-- Value of a hexadecimal digit of either case. -/
def hexDigit? (c : Char) : Option Nat :=
  if '0' ≤ c ∧ c ≤ '9' then some (c.toNat - '0'.toNat)
  else if 'a' ≤ c ∧ c ≤ 'f' then some (c.toNat - 'a'.toNat + 10)
  else if 'A' ≤ c ∧ c ≤ 'F' then some (c.toNat - 'A'.toNat + 10)
  else none

/-- Value of a decimal digit. -/
def digit? (c : Char) : Option Nat :=
  if '0' ≤ c ∧ c ≤ '9' then some (c.toNat - '0'.toNat) else none

/-- Numbers are written in decimal digits. -/
theorem isDigit_of_mem_repr {n : Nat} {c : Char} (h : c ∈ n.repr.toList) : c.isDigit := by
  rw [Nat.repr_eq_ofList_toDigits, String.toList_ofList] at h
  exact Nat.isDigit_of_mem_toDigits (by decide) (by decide) h

/-- A number begins with a digit. -/
theorem exists_toDigits_eq_cons (n : Nat) :
    ∃ c digits, Nat.toDigits 10 n = c :: digits ∧ c.isDigit = true := by
  obtain ⟨c, digits, hdigits⟩ := List.exists_cons_of_ne_nil (Nat.toDigits_ne_nil (n := n) (b := 10))
  have hmem : c ∈ Nat.toDigits 10 n := hdigits ▸ List.mem_cons_self
  exact ⟨c, digits, hdigits, Nat.isDigit_of_mem_toDigits (by decide) (by decide) hmem⟩

/-- A number is known by its digits. -/
theorem eq_of_repr_eq {m n : Nat} (h : m.repr = n.repr) : m = n := by
  rw [Nat.repr_eq_ofList_toDigits, Nat.repr_eq_ofList_toDigits, String.ofList_inj] at h
  rw [← Nat.ofDigitChars_ten_toDigits (n := m), h, Nat.ofDigitChars_ten_toDigits]

/-- Value of a digit in a base of at most sixteen. -/
def digitIn? (base : Nat) (c : Char) : Option Nat :=
  (hexDigit? c).filter (· < base)

/-- Value of a non-empty run of digits in a base, or nothing if any character is no digit. -/
def natIn? (base : Nat) (cs : List Char) : Option Nat :=
  if cs.isEmpty then none
  else cs.foldlM (fun n c => (digitIn? base c).map (n * base + ·)) 0

/-- The value of a decimal digit. -/
theorem digitIn?_of_isDigit {c : Char} (h : c.isDigit) :
    digitIn? 10 c = some (c.toNat - '0'.toNat) := by
  have hrange : '0' ≤ c ∧ c ≤ '9' := by
    simpa [Char.isDigit, Char.le_def] using h
  have hvalue : c.toNat - 48 < 10 := by
    have hle : c.toNat ≤ 57 := hrange.2
    omega
  simp [digitIn?, hexDigit?, hrange, hvalue]

/-- Decimal digits are read as the number that they are written for. -/
theorem natIn?_toDigits (n : Nat) : natIn? 10 (Nat.toDigits 10 n) = some n := by
  have hfold (cs : List Char) (hcs : ∀ c ∈ cs, c.isDigit) (m : Nat) :
      cs.foldlM (fun n c => (digitIn? 10 c).map (n * 10 + ·)) m =
        some (Nat.ofDigitChars 10 cs m) := by
    induction cs generalizing m with
    | nil => rfl
    | cons c cs ih =>
      obtain ⟨hc, hcs⟩ := List.forall_mem_cons.mp hcs
      rw [List.foldlM_cons, digitIn?_of_isDigit hc, Nat.ofDigitChars_cons, Nat.mul_comm 10 m]
      exact ih hcs _
  have hne : (Nat.toDigits 10 n).isEmpty = false := by
    simp
  have hdigit : ∀ c ∈ Nat.toDigits 10 n, c.isDigit := fun c =>
    Nat.isDigit_of_mem_toDigits (by decide) (by decide)
  rw [natIn?, hne, if_neg Bool.false_ne_true, hfold _ hdigit, Nat.ofDigitChars_ten_toDigits]

/-- Value of a run of decimal digits behind an optional plus sign. -/
def nat? : List Char → Option Nat
  | '+' :: ds => natIn? 10 ds
  | ds => natIn? 10 ds

/-- Value of a run of decimal digits behind an optional sign. -/
def int? : List Char → Option Int
  | '-' :: ds => (natIn? 10 ds).map fun n => -Int.ofNat n
  | ds => (nat? ds).map Int.ofNat

end ServiceControl.Text
