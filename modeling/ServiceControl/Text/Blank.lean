/-!
# Blank characters

The characters that Unicode counts as white space, and the trimming of texts by them.
-/

namespace ServiceControl.Text

/-- Unicode's white space: the class that trimming removes from the ends of a text. -/
def isBlank (c : Char) : Bool :=
  let n := c.toNat
  (9 ≤ n && n ≤ 13) || n == 0x20 || n == 0x85 || n == 0xA0 || n == 0x1680 ||
    (0x2000 ≤ n && n ≤ 0x200A) || n == 0x2028 || n == 0x2029 || n == 0x202F || n == 0x205F ||
    n == 0x3000

/-- The list without the elements at both ends that satisfy a test. -/
def trimListBy (p : α → Bool) (l : List α) : List α :=
  ((l.dropWhile p).reverse.dropWhile p).reverse

section

variable {p : α → Bool} {a : α} {l : List α}

/-- Only elements that satisfy the test are taken away, at both ends. -/
theorem exists_trimListBy (p : α → Bool) (l : List α) :
    ∃ before behind, l = before ++ trimListBy p l ++ behind ∧ (∀ x ∈ before, p x) ∧
      ∀ x ∈ behind, p x := by
  refine ⟨l.takeWhile p, ((l.dropWhile p).reverse.takeWhile p).reverse, ?_,
    List.all_eq_true.mp List.all_takeWhile, fun x hx =>
      List.all_eq_true.mp List.all_takeWhile x (List.mem_reverse.mp hx)⟩
  rw [trimListBy, List.append_assoc, ← List.reverse_append, List.takeWhile_append_dropWhile,
    List.reverse_reverse, List.takeWhile_append_dropWhile]

/-- An element that fails the test stays, and no element comes in. -/
theorem mem_trimListBy_iff (ha : p a = false) : a ∈ trimListBy p l ↔ a ∈ l := by
  obtain ⟨before, behind, hl, hbefore, hbehind⟩ := exists_trimListBy p l
  have hno : ∀ l' : List α, (∀ x ∈ l', p x) → a ∉ l' := fun l' h hmem =>
    Bool.eq_false_iff.mp ha (h a hmem)
  have hmem : a ∈ before ++ trimListBy p l ++ behind ↔ a ∈ trimListBy p l := by
    rw [List.mem_append, List.mem_append, or_iff_left (hno _ hbehind),
      or_iff_right (hno _ hbefore)]
  rw [← hmem, ← hl]

/-- The elements that fail the test are the same, in the same order. -/
theorem filter_trimListBy (p : α → Bool) (l : List α) :
    (trimListBy p l).filter (fun x => !p x) = l.filter fun x => !p x := by
  obtain ⟨before, behind, hl, hbefore, hbehind⟩ := exists_trimListBy p l
  have hnil : ∀ l' : List α, (∀ x ∈ l', p x) → (l'.filter fun x => !p x) = [] := fun l' h =>
    List.filter_eq_nil_iff.mpr fun x hx => by rw [h x hx]; exact Bool.false_ne_true
  have hfilter : (before ++ trimListBy p l ++ behind).filter (fun x => !p x) =
      (trimListBy p l).filter fun x => !p x := by
    rw [List.filter_append, List.filter_append, hnil _ hbefore, hnil _ hbehind, List.nil_append,
      List.append_nil]
  rw [← hfilter, ← hl]

/-- The first element that is left fails the test. -/
theorem head?_trimListBy : ∀ x ∈ (trimListBy p l).head?, p x = false := by
  intro x hx
  have hdrop : l.dropWhile p =
      trimListBy p l ++ ((l.dropWhile p).reverse.takeWhile p).reverse := by
    rw [trimListBy, ← List.reverse_append, List.takeWhile_append_dropWhile, List.reverse_reverse]
  have hhead := List.head?_dropWhile_not p l
  rw [hdrop, List.head?_append, Option.mem_def.mp hx] at hhead
  exact hhead

/-- The last element that is left fails the test. -/
theorem getLast?_trimListBy : ∀ x ∈ (trimListBy p l).getLast?, p x = false := by
  intro x hx
  rw [trimListBy, List.getLast?_reverse] at hx
  have hhead := List.head?_dropWhile_not p (l.dropWhile p).reverse
  rw [Option.mem_def.mp hx] at hhead
  exact hhead

/-- Nothing is left exactly of a list whose elements all satisfy the test. -/
theorem trimListBy_eq_nil_iff : trimListBy p l = [] ↔ ∀ x ∈ l, p x := by
  constructor
  · intro h x hx
    cases hp : p x with
    | true => rfl
    | false =>
      rw [← mem_trimListBy_iff hp, h] at hx
      cases hx
  · intro h
    cases hkept : trimListBy p l with
    | nil => rfl
    | cons x kept =>
      have hfails : p x = false := head?_trimListBy x (by rw [hkept]; rfl)
      have hx : x ∈ l := by rw [← mem_trimListBy_iff hfails, hkept]; exact List.mem_cons_self
      rw [h x hx] at hfails
      cases hfails

theorem trimListBy_cons_of_pos (h : p a) (l : List α) :
    trimListBy p (a :: l) = trimListBy p l := by
  rw [trimListBy, List.dropWhile_cons_of_pos h, trimListBy]

theorem trimListBy_concat_of_pos (h : p a) (l : List α) :
    trimListBy p (l ++ [a]) = trimListBy p l := by
  rw [trimListBy, trimListBy, List.dropWhile_append]
  split
  · next hnil =>
    rw [List.isEmpty_iff.mp hnil, List.dropWhile_cons_of_pos h]
    rfl
  · rw [List.reverse_append, List.reverse_singleton, List.singleton_append,
      List.dropWhile_cons_of_pos h]

/-- A list whose ends fail the test stays as it is. -/
theorem trimListBy_eq_self (hhead : ∀ x ∈ l.head?, p x = false)
    (hlast : ∀ x ∈ l.getLast?, p x = false) : trimListBy p l = l := by
  have hdrop : ∀ l' : List α, (∀ x ∈ l'.head?, p x = false) → l'.dropWhile p = l' := by
    intro l' h
    cases l' with
    | nil => rfl
    | cons x l' => exact List.dropWhile_cons_of_neg (Bool.eq_false_iff.mp (h x rfl))
  rw [← List.head?_reverse] at hlast
  rw [trimListBy, hdrop l hhead, hdrop _ hlast, List.reverse_reverse]

end

/-- The text without the characters at both ends that satisfy a test. -/
def trimBy (p : Char → Bool) (s : String) : String := String.ofList (trimListBy p s.toList)

/-- The text without blanks at its ends. -/
def trim (s : String) : String := trimBy isBlank s

/-- A text is blank when nothing else is in it. -/
def Blank (s : String) : Prop := ∀ c ∈ s.toList, isBlank c

instance (s : String) : Decidable (Blank s) := List.decidableBAll _ s.toList

end ServiceControl.Text
