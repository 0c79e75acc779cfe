/-!
# Cutting texts

Cuts at the first or the last occurrence of a character or of a separator, and tests for a beginning
or an end. All are recursions on the list of characters.
-/

namespace ServiceControl.Text

/-- The rest of a list after a given beginning. -/
def afterList? [DecidableEq α] : List α → List α → Option (List α)
  | [], s => some s
  | _ :: _, [] => none
  | p :: ps, c :: s => if p = c then afterList? ps s else none

/-- What is found behind a beginning is the list without it. -/
theorem afterList?_eq_some_iff [DecidableEq α] {p s r : List α} :
    afterList? p s = some r ↔ s = p ++ r := by
  induction p generalizing s with
  | nil => simp only [afterList?, Option.some.injEq, List.nil_append]
  | cons a p ih =>
    cases s with
    | nil => simp [afterList?]
    | cons c s =>
      by_cases h : a = c
      · simp only [afterList?, h, ite_true, ih, List.cons_append, List.cons.injEq, true_and]
      · simp only [afterList?, h, ite_false, List.cons_append, List.cons.injEq, reduceCtorEq,
          false_iff, not_and]
        exact fun h' => absurd h'.symm h

/-- The text after a given beginning. -/
def after? (beginning s : String) : Option String :=
  (afterList? beginning.toList s.toList).map String.ofList

/-- The text before a given end. -/
def before? (ending s : String) : Option String :=
  (afterList? ending.toList.reverse s.toList.reverse).map fun r => String.ofList r.reverse

/-- Whether a text starts with another. -/
def startsWith (s beginning : String) : Bool := (after? beginning s).isSome

/-- The two sides of the first place where a separator stands in a list. -/
def cutList [DecidableEq α] (sep : List α) : List α → Option (List α × List α)
  | [] => if sep = [] then some ([], []) else none
  | c :: s =>
    match afterList? sep (c :: s) with
    | some r => some ([], r)
    | none => (cutList sep s).map fun (a, b) => (c :: a, b)

/-- Nothing is cut at an element that does not occur. -/
theorem cutList_eq_none_iff [DecidableEq α] {c : α} {s : List α} :
    cutList [c] s = none ↔ c ∉ s := by
  induction s with
  | nil => simp [cutList]
  | cons x s ih =>
    by_cases h : c = x
    · simp [cutList, afterList?, h]
    · simp [cutList, afterList?, h, ih]

/-- Where the first occurrence stands, nothing before it equals it. -/
theorem cutList_eq_some_iff [DecidableEq α] {c : α} {s a b : List α} :
    cutList [c] s = some (a, b) ↔ s = a ++ c :: b ∧ c ∉ a := by
  induction s generalizing a with
  | nil => simp [cutList]
  | cons x s ih =>
    by_cases h : c = x
    · subst h
      have hcut : cutList [c] (c :: s) = some ([], s) := by simp [cutList, afterList?]
      cases a with
      | nil => simp [hcut]
      | cons y a =>
        simp only [hcut, List.cons_append, List.cons.injEq, List.mem_cons, not_or]
        exact ⟨nofun, fun h => absurd h.1.1 h.2.1⟩
    · have hcut : cutList [c] (x :: s) = (cutList [c] s).map fun (a, b) => (x :: a, b) := by
        simp only [cutList, afterList?, h, ite_false]
      cases a with
      | nil => simp [hcut, Ne.symm h]
      | cons y a =>
        have hrest := ih (a := a)
        simp only [hcut, Option.map_eq_some_iff, Prod.exists, Prod.mk.injEq, List.cons.injEq,
          List.cons_append, List.mem_cons, not_or]
        constructor
        · rintro ⟨a', b', hs, ⟨rfl, rfl⟩, rfl⟩
          exact ⟨⟨rfl, (hrest.mp hs).1⟩, h, (hrest.mp hs).2⟩
        · rintro ⟨⟨rfl, hs⟩, -, hn⟩
          exact ⟨a, b, hrest.mpr ⟨hs, hn⟩, ⟨rfl, rfl⟩, rfl⟩

/-- The two sides of the first place where a separator stands. -/
def cut? (sep s : String) : Option (String × String) :=
  (cutList sep.toList s.toList).map fun (a, b) => (String.ofList a, String.ofList b)

/-- A text is cut where a character stands first. -/
theorem cut?_eq_some_iff {c : Char} {sep s a b : String} (hsep : sep.toList = [c]) :
    cut? sep s = some (a, b) ↔ s = a ++ sep ++ b ∧ c ∉ a.toList := by
  have hlist : s = a ++ sep ++ b ↔ s.toList = a.toList ++ c :: b.toList := by
    rw [← String.toList_inj, String.toList_append, String.toList_append, hsep, List.append_assoc,
      List.singleton_append]
  rw [hlist, ← cutList_eq_some_iff, cut?, hsep, Option.map_eq_some_iff]
  constructor
  · rintro ⟨⟨a', b'⟩, h, heq⟩
    obtain ⟨rfl, rfl⟩ := Prod.mk.inj heq
    rw [h, String.toList_ofList, String.toList_ofList]
  · intro h
    exact ⟨_, h, by simp only [String.ofList_toList]⟩

/-- An element that occurs in a list has a last occurrence. -/
theorem exists_last_of_mem {c : α} {s : List α} (h : c ∈ s) : ∃ a b, s = a ++ c :: b ∧ c ∉ b := by
  obtain ⟨b, a, hs, hb⟩ := List.eq_append_cons_of_mem (List.mem_reverse.mpr h)
  refine ⟨a.reverse, b.reverse, ?_, mt List.mem_reverse.mp hb⟩
  rw [← List.reverse_reverse s, hs, List.reverse_append, List.reverse_cons, List.append_assoc,
    List.singleton_append]

/-- The two sides of the last occurrence of a character in a list. -/
def cutLastList [DecidableEq α] (c : α) : List α → Option (List α × List α)
  | [] => none
  | x :: s =>
    match cutLastList c s with
    | some (a, b) => some (x :: a, b)
    | none => if x = c then some ([], s) else none

/-- The two sides of the last occurrence of a character. -/
def cutLast? (c : Char) (s : String) : Option (String × String) :=
  (cutLastList c s.toList).map fun (a, b) => (String.ofList a, String.ofList b)

/-- Where the last occurrence stands, nothing behind it equals it. -/
theorem cutLastList_eq_some_iff [DecidableEq α] {c : α} {s a b : List α} :
    cutLastList c s = some (a, b) ↔ s = a ++ c :: b ∧ c ∉ b := by
  induction s generalizing a b with
  | nil => simp [cutLastList]
  | cons x s ih =>
    simp only [cutLastList]
    cases h : cutLastList c s with
    | some p =>
      obtain ⟨a', b'⟩ := p
      obtain ⟨hs, hb⟩ := ih.1 h
      simp only [Option.some.injEq, Prod.mk.injEq]
      constructor
      · rintro ⟨rfl, rfl⟩
        exact ⟨by rw [hs, List.cons_append], hb⟩
      · rintro ⟨he, hn⟩
        cases a with
        | nil =>
          simp only [List.nil_append, List.cons.injEq] at he
          exact absurd (by rw [← he.2, hs]; simp) hn
        | cons y a =>
          simp only [List.cons_append, List.cons.injEq] at he
          have := ih.2 ⟨he.2, hn⟩
          rw [h] at this
          simp only [Option.some.injEq, Prod.mk.injEq] at this
          exact ⟨by rw [he.1, this.1], this.2⟩
    | none =>
      have hno : c ∉ s := by
        intro hm
        obtain ⟨l, r, hl, hr⟩ := exists_last_of_mem hm
        have := ih.2 ⟨hl, hr⟩
        rw [h] at this
        cases this
      by_cases hx : x = c
      · simp only [hx, ite_true, Option.some.injEq, Prod.mk.injEq]
        constructor
        · rintro ⟨rfl, rfl⟩
          exact ⟨rfl, hno⟩
        · rintro ⟨he, _⟩
          cases a with
          | nil => simpa using he
          | cons y a =>
            simp only [List.cons_append, List.cons.injEq] at he
            exact absurd (by rw [he.2]; simp) hno
      · simp only [hx, ite_false, reduceCtorEq, false_iff, not_and]
        intro he
        cases a with
        | nil =>
          simp only [List.nil_append, List.cons.injEq] at he
          exact absurd he.1 hx
        | cons y a =>
          simp only [List.cons_append, List.cons.injEq] at he
          exact absurd (by rw [he.2]; simp) hno

/-- The pieces of a list between the occurrences of an element; there is always at least one. -/
def splitList [DecidableEq α] (c : α) : List α → List (List α)
  | [] => [[]]
  | x :: s =>
    if x = c then [] :: splitList c s
    else match splitList c s with
      | [] => [[x]]
      | p :: ps => (x :: p) :: ps

/-- Where an element does not occur there is one piece. -/
theorem splitList_of_notMem [DecidableEq α] {c : α} {s : List α} (h : c ∉ s) :
    splitList c s = [s] := by
  induction s with
  | nil => rfl
  | cons x s ih =>
    have hx : x ≠ c := fun heq => h (heq ▸ List.mem_cons_self)
    rw [splitList, if_neg hx, ih fun hc => h (List.mem_cons_of_mem _ hc)]

/-- There is always a piece. -/
theorem splitList_ne_nil [DecidableEq α] (c : α) (s : List α) : splitList c s ≠ [] := by
  cases s with
  | nil => exact List.cons_ne_nil _ _
  | cons x s =>
    rw [splitList]
    split
    · exact List.cons_ne_nil _ _
    · split <;> exact List.cons_ne_nil _ _

/-- The pieces on the two sides of an occurrence are told apart by it. -/
theorem splitList_append_cons [DecidableEq α] (c : α) (a b : List α) :
    splitList c (a ++ c :: b) = splitList c a ++ splitList c b := by
  induction a with
  | nil => simp [splitList]
  | cons x a ih =>
    rw [List.cons_append, splitList, splitList, ih]
    split
    · rfl
    · cases h : splitList c a with
      | nil => exact absurd h (splitList_ne_nil c a)
      | cons p ps => rfl

/-- A list is known by its pieces. -/
theorem splitList_injective [DecidableEq α] (c : α) {a b : List α}
    (h : splitList c a = splitList c b) : a = b := by
  -- a list is its pieces with the element between them
  have hjoin (s : List α) : [c].intercalate (splitList c s) = s := by
    induction s with
    | nil => rfl
    | cons x s ih =>
      rw [splitList]
      obtain ⟨p, ps, hs⟩ := List.exists_cons_of_ne_nil (splitList_ne_nil c s)
      rw [hs] at ih ⊢
      split
      · next hx => rw [hx, List.intercalate_cons_cons, ih, List.nil_append, List.singleton_append]
      · cases ps with
        | nil => simpa using ih
        | cons q qs => simpa [List.intercalate_cons_cons] using ih
  rw [← hjoin a, h, hjoin b]

/-- The pieces of a text between the occurrences of a character. -/
def split (c : Char) (s : String) : List String := (splitList c s.toList).map String.ofList

/-- The pieces of a text on the two sides of a character. -/
theorem split_append {c : Char} {sep : String} (hsep : sep.toList = [c]) (a b : String) :
    split c (a ++ sep ++ b) = split c a ++ split c b := by
  rw [split, String.toList_append, String.toList_append, hsep, List.append_assoc,
    List.singleton_append, splitList_append_cons, List.map_append, split, split]

/-- A text is known by its pieces. -/
theorem split_injective (c : Char) : Function.Injective (split c) := by
  intro a b h
  have hlist : splitList c a.toList = splitList c b.toList :=
    (List.map_inj_right fun _ _ => String.ofList_inj.mp).mp h
  exact String.toList_inj.mp (splitList_injective c hlist)

/-- Without the character there is one piece. -/
theorem split_of_notMem {c : Char} {s : String} (h : c ∉ s.toList) : split c s = [s] := by
  rw [split, splitList_of_notMem h, List.map_singleton, String.ofList_toList]

/-- The list with every occurrence of a separator replaced, from the left; the given number of
elements belongs to an occurrence that is replaced already. -/
def replaceList [DecidableEq α] (old new : List α) : Nat → List α → List α
  | _, [] => []
  | n + 1, _ :: s => replaceList old new n s
  | 0, c :: s =>
    match afterList? old (c :: s) with
    | some _ => new ++ replaceList old new (old.length - 1) s
    | none => c :: replaceList old new 0 s

section

variable [DecidableEq α] {old new : List α} {a : α}

/-- An element that does not belong to what is replaced stays. -/
theorem mem_replaceList (hold : old ≠ []) (ha : a ∉ old) {n : Nat} {s : List α} (hs : a ∈ s)
    (hn : a ∉ s.take n) : a ∈ replaceList old new n s := by
  induction s generalizing n with
  | nil => cases hs
  | cons c s ih =>
    cases n with
    | succ n =>
      rw [List.take_succ_cons, List.mem_cons, not_or] at hn
      exact ih ((List.mem_cons.mp hs).resolve_left hn.1) hn.2
    | zero =>
      rw [replaceList]
      cases hr : afterList? old (c :: s) with
      | none =>
        rcases List.mem_cons.mp hs with rfl | hs
        · exact List.mem_cons_self
        · exact List.mem_cons_of_mem _ (ih hs List.not_mem_nil)
      | some r =>
        have hlist : c :: s = old ++ r := afterList?_eq_some_iff.mp hr
        obtain ⟨c', rest, rfl⟩ := List.exists_cons_of_ne_nil hold
        obtain ⟨rfl, rfl⟩ := List.cons.inj hlist
        rw [List.mem_cons, not_or] at ha
        have htake : a ∉ (rest ++ r).take rest.length := by
          rw [List.take_left]
          exact ha.2
        exact List.mem_append_right _ (ih ((List.mem_cons.mp hs).resolve_left ha.1) htake)

/-- Nothing comes in but what others are replaced by. -/
theorem mem_of_mem_replaceList {n : Nat} {s : List α} (h : a ∈ replaceList old new n s) :
    a ∈ new ∨ a ∈ s := by
  induction s generalizing n with
  | nil => rw [replaceList] at h; cases h
  | cons c s ih =>
    cases n with
    | succ n => exact (ih h).imp_right (List.mem_cons_of_mem _)
    | zero =>
      rw [replaceList] at h
      cases hr : afterList? old (c :: s) with
      | none =>
        rw [hr] at h
        rcases List.mem_cons.mp h with rfl | h
        · exact .inr List.mem_cons_self
        · exact (ih h).imp_right (List.mem_cons_of_mem _)
      | some r =>
        rw [hr] at h
        rcases List.mem_append.mp h with h | h
        · exact .inl h
        · exact (ih h).imp_right (List.mem_cons_of_mem _)

end

/-- The text with every occurrence of a text that is not empty replaced, from the left. -/
def replace (old new s : String) : String :=
  String.ofList (replaceList old.toList new.toList 0 s.toList)

/-- Replacing texts leaves every character that belongs neither to what is replaced nor to what
replaces it. -/
theorem mem_replace_iff {c : Char} {old new s : String} (hne : old ≠ "") (hold : c ∉ old.toList)
    (hnew : c ∉ new.toList) : c ∈ (replace old new s).toList ↔ c ∈ s.toList := by
  rw [replace, String.toList_ofList]
  constructor
  · intro h
    exact (mem_of_mem_replaceList h).resolve_left hnew
  · intro h
    have hne' : old.toList ≠ [] := fun hnil => hne (String.toList_eq_nil_iff.mp hnil)
    exact mem_replaceList hne' hold h List.not_mem_nil

/-- The text with every occurrence of one character replaced by another. -/
def replaceChar (c d : Char) (s : String) : String := s.map fun x => if x = c then d else x

/-- Replacing a character leaves all others but the one that it becomes. -/
theorem mem_replaceChar_iff {x c d : Char} {s : String} (hc : x ≠ c) (hd : x ≠ d) :
    x ∈ (replaceChar c d s).toList ↔ x ∈ s.toList := by
  rw [replaceChar, String.toList_map, List.mem_map]
  constructor
  · rintro ⟨y, hy, heq⟩
    split at heq
    · exact absurd heq.symm hd
    · rwa [← heq]
  · intro h
    exact ⟨x, h, if_neg hc⟩

end ServiceControl.Text
