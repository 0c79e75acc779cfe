import Mathlib.Data.List.Basic
import ServiceControl.Text.Ascii
import ServiceControl.Text.Cut

/-!
# The line protocol

A line `name:value|type` says the value of a metric, and a datagram has one or more lines. Some
characters are kept for the protocol. A line is read as what it was written from exactly if its name
has none of them; the value and the type never have any.
-/

namespace ServiceControl.Statsd

/-- The types of lines. -/
inductive LineSort where
  | counter
  | timing
  deriving DecidableEq, Repr

/-- A type as it is written. -/
def LineSort.text : LineSort → String
  | counter => "c"
  | timing => "ms"

/-- What a line says. -/
structure Measurement where
  name : String
  value : Int
  sort : LineSort
  deriving DecidableEq, Repr

/-- The line that says it. -/
def Measurement.line (m : Measurement) : String :=
  m.name ++ ":" ++ (toString m.value ++ "|" ++ m.sort.text)

/-- The characters that the protocol keeps for itself: the ends of names and
values, and line breaks. -/
def isSeparator (c : Char) : Bool := c == ':' || c == '|' || c == '\n' || c == '\r'

/-- Texts without any of these characters. -/
def IsWhole (s : String) : Prop := ∀ c ∈ s.toList, isSeparator c = false

instance (s : String) : Decidable (IsWhole s) := List.decidableBAll _ s.toList

/-- The type with a spelling. -/
def sortOf? (s : String) : Option LineSort :=
  if s = LineSort.counter.text then some .counter
  else if s = LineSort.timing.text then some .timing
  else none

/-- The whole number of decimal digits, perhaps behind a minus sign. -/
def wholeNumber : List Char → Int
  | '-' :: digits => -(Nat.ofDigitChars 10 digits 0 : Int)
  | digits => Nat.ofDigitChars 10 digits 0

/-- The whole number that is spelled so, without needless signs and zeros. -/
def valueOf? (s : String) : Option Int :=
  if toString (wholeNumber s.toList) = s then some (wholeNumber s.toList) else none

/-- What a line says to whoever takes it in. -/
def readLine? (line : String) : Option Measurement := do
  let (name, rest) ← Text.cut? ":" line
  let (value, sort) ← Text.cut? "|" rest
  if IsWhole name then return ⟨name, ← valueOf? value, ← sortOf? sort⟩ else none

/-- What a datagram says: something with every line. -/
def read? (datagram : String) : Option (List Measurement) :=
  (Text.split '\n' datagram).mapM readLine?

theorem sortOf?_eq_some_iff {s : String} {sort : LineSort} :
    sortOf? s = some sort ↔ s = sort.text := by
  rw [sortOf?]
  constructor
  · intro h
    split at h
    · next hs => cases h; exact hs
    · split at h
      · next hs => cases h; exact hs
      · cases h
  · rintro rfl
    cases sort <;> decide

theorem wholeNumber_repr (n : Nat) : wholeNumber n.repr.toList = n := by
  have hdigits : wholeNumber n.repr.toList = Nat.ofDigitChars 10 n.repr.toList 0 := by
    cases hlist : n.repr.toList with
    | nil => rfl
    | cons c digits =>
      have hc : c.isDigit := Text.isDigit_of_mem_repr (hlist ▸ List.mem_cons_self)
      rw [wholeNumber]
      rintro rest heq
      rw [(List.cons.inj heq).1] at hc
      cases hc
  rw [hdigits, Nat.repr_eq_ofList_toDigits, String.toList_ofList, Nat.ofDigitChars_ten_toDigits]

theorem toString_eq_ite (i : Int) :
    toString i = if 0 ≤ i then i.toNat.repr else "-" ++ (-i).toNat.repr :=
  Int.repr_eq_if

/-- Whole numbers read back. -/
theorem wholeNumber_toString (i : Int) : wholeNumber (toString i).toList = i := by
  rw [toString_eq_ite]
  split
  · next h => rw [wholeNumber_repr, Int.toNat_of_nonneg h]
  · next h =>
    have hneg : wholeNumber ("-" ++ (-i).toNat.repr).toList = -((-i).toNat : Int) := by
      rw [String.toList_append]
      change -(Nat.ofDigitChars 10 (-i).toNat.repr.toList 0 : Int) = _
      rw [Nat.repr_eq_ofList_toDigits, String.toList_ofList, Nat.ofDigitChars_ten_toDigits]
    rw [hneg]
    omega

theorem valueOf?_eq_some_iff {s : String} {i : Int} : valueOf? s = some i ↔ s = toString i := by
  rw [valueOf?]
  constructor
  · intro h
    split at h
    · next hs =>
      cases h
      exact hs.symm
    · cases h
  · rintro rfl
    rw [wholeNumber_toString, if_pos rfl]

/-- A whole number is spelled with digits and perhaps a minus sign. -/
theorem isWhole_toString (i : Int) : IsWhole (toString i) := by
  have hdigit : ∀ c : Char, c.isDigit → isSeparator c = false := by
    intro c hc
    cases hsep : isSeparator c with
    | false => rfl
    | true =>
      simp only [isSeparator, Bool.or_eq_true, beq_iff_eq] at hsep
      rcases hsep with ((rfl | rfl) | rfl) | rfl <;> cases hc
  rw [toString_eq_ite]
  intro c hc
  split at hc
  · exact hdigit c (Text.isDigit_of_mem_repr hc)
  · rw [String.toList_append, List.mem_append] at hc
    rcases hc with hc | hc
    · rw [List.mem_singleton.mp hc]
      rfl
    · exact hdigit c (Text.isDigit_of_mem_repr hc)

theorem isWhole_text (sort : LineSort) : IsWhole sort.text := by
  cases sort <;> decide

theorem isWhole_iff {s : String} : IsWhole s ↔ ∀ c, isSeparator c = true → c ∉ s.toList := by
  constructor
  · intro h c hc hmem
    rw [h c hmem] at hc
    cases hc
  · intro h c hmem
    exact Bool.eq_false_iff.mpr fun hc => h c hc hmem

/-- A line that is read is written from what it says, and the name is without separators. -/
theorem readLine?_eq_some_iff {line : String} {m : Measurement} :
    readLine? line = some m ↔ line = m.line ∧ IsWhole m.name := by
  have hcolon : ":".toList = [':'] := by decide
  have hbar : "|".toList = ['|'] := by decide
  rw [Measurement.line]
  constructor
  · intro h
    simp only [readLine?, Option.bind_eq_bind, Option.bind_eq_some_iff, Prod.exists,
      Text.cut?_eq_some_iff hcolon, Text.cut?_eq_some_iff hbar, Option.ite_none_right_eq_some,
      valueOf?_eq_some_iff, sortOf?_eq_some_iff, Option.pure_def, Option.some.injEq] at h
    obtain ⟨name, _, ⟨rfl, -⟩, _, _, ⟨rfl, -⟩, hname, _, rfl, _, rfl, rfl⟩ := h
    exact ⟨rfl, hname⟩
  · rintro ⟨rfl, hname⟩
    have hname' : Text.cut? ":" (m.name ++ ":" ++ (toString m.value ++ "|" ++ m.sort.text)) =
        some (m.name, toString m.value ++ "|" ++ m.sort.text) :=
      (Text.cut?_eq_some_iff hcolon).mpr ⟨rfl, isWhole_iff.mp hname _ rfl⟩
    have hvalue : Text.cut? "|" (toString m.value ++ "|" ++ m.sort.text) =
        some (toString m.value, m.sort.text) :=
      (Text.cut?_eq_some_iff hbar).mpr ⟨rfl, isWhole_iff.mp (isWhole_toString m.value) _ rfl⟩
    simp only [readLine?, hname', hvalue, valueOf?_eq_some_iff.mpr rfl,
      sortOf?_eq_some_iff.mpr rfl, if_pos hname, Option.bind_eq_bind, Option.bind_some,
      Option.pure_def]

/-- A line whose name is whole has no line breaks. -/
theorem notMem_line {m : Measurement} (h : IsWhole m.name) : '\n' ∉ m.line.toList := by
  have hvalue := isWhole_iff.mp (isWhole_toString m.value) '\n' rfl
  have hsort := isWhole_iff.mp (isWhole_text m.sort) '\n' rfl
  simp only [Measurement.line, String.toList_append, List.mem_append, not_or]
  exact ⟨⟨isWhole_iff.mp h _ rfl, by decide⟩, ⟨hvalue, by decide⟩, hsort⟩

/-- One line that is sent says what it was written from exactly if the name has no separators. -/
theorem read?_line_iff (m : Measurement) : read? m.line = some [m] ↔ IsWhole m.name := by
  constructor
  · intro h
    rw [read?] at h
    cases hsplit : Text.split '\n' m.line with
    | nil =>
      rw [hsplit] at h
      cases h
    | cons line lines =>
      rw [hsplit, List.mapM_cons] at h
      simp only [Option.bind_eq_bind, Option.bind_eq_some_iff, Option.pure_def, Option.some.injEq,
        List.cons.injEq] at h
      obtain ⟨_, hline, _, -, rfl, -⟩ := h
      exact (readLine?_eq_some_iff.mp hline).2
  · intro h
    have hsplit : Text.split '\n' m.line = [m.line] := by
      rw [Text.split, Text.splitList_of_notMem (notMem_line h), List.map_singleton,
        String.ofList_toList]
    rw [read?, hsplit, List.mapM_cons, readLine?_eq_some_iff.mpr ⟨rfl, h⟩]
    rfl

end ServiceControl.Statsd
