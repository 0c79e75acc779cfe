/-!
# Maps in the order of their keys

A map from texts is a list of entries in strictly increasing order of keys; texts are ordered by the
code points of their characters. Two maps with the same look-ups are the same list, so equality and
comparison of maps are those of their entries. A map that was written is read entry by entry.
-/

namespace ServiceControl

/-- Entries in strictly increasing order of keys. -/
def SortedKeys {α : Type u} (entries : List (String × α)) : Prop :=
  entries.Pairwise fun a b => a.1 < b.1

instance {α : Type u} (entries : List (String × α)) : Decidable (SortedKeys entries) :=
  inferInstanceAs (Decidable (List.Pairwise _ _))

/-- A finite map from texts, in the order of its keys. -/
structure SortedMap (α : Type u) where
  /-- Keys and values. -/
  entries : List (String × α)
  /-- Keys increase. -/
  sorted : SortedKeys entries
  deriving DecidableEq, Repr

namespace SortedMap

variable {α : Type u} {β : Type v}

/-- The map without entries. -/
def empty : SortedMap α := ⟨[], List.Pairwise.nil⟩

instance : Inhabited (SortedMap α) := ⟨empty⟩

/-- Puts a value at its place in a sorted list, in place of an earlier one of the same key. -/
def insertEntry (k : String) (v : α) : List (String × α) → List (String × α)
  | [] => [(k, v)]
  | (k', v') :: r =>
    if k < k' then (k, v) :: (k', v') :: r
    else if k = k' then (k, v) :: r
    else (k', v') :: insertEntry k v r

/-- Of two different texts one is less. -/
theorem lt_of_not_lt_of_ne {k k' : String} (h : ¬ k < k') (hne : k ≠ k') : k' < k := by
  by_cases h' : k' < k
  · exact h'
  · exact absurd (String.le_antisymm (String.not_lt.1 h') (String.not_lt.1 h)) hne

/-- The keys of an insertion are the old ones and the new one. -/
theorem mem_keys_insertEntry {k x : String} {v : α} {entries : List (String × α)} :
    x ∈ (insertEntry k v entries).map Prod.fst ↔ x = k ∨ x ∈ entries.map Prod.fst := by
  induction entries with
  | nil => simp [insertEntry]
  | cons e r ih =>
    obtain ⟨k', v'⟩ := e
    simp only [insertEntry]
    split
    · simp
    · split
      · next h => subst h; simp
      · simp only [List.map_cons, List.mem_cons, ih]
        constructor
        · rintro (h | h | h)
          · exact .inr (.inl h)
          · exact .inl h
          · exact .inr (.inr h)
        · rintro (h | h | h)
          · exact .inr (.inl h)
          · exact .inl h
          · exact .inr (.inr h)

/-- Insertion keeps the keys increasing. -/
theorem sortedKeys_insertEntry {k : String} {v : α} {entries : List (String × α)}
    (h : SortedKeys entries) : SortedKeys (insertEntry k v entries) := by
  induction entries with
  | nil => exact List.pairwise_singleton _ _
  | cons e r ih =>
    obtain ⟨k', v'⟩ := e
    have hr := List.pairwise_cons.1 h
    simp only [insertEntry]
    split
    · next hlt =>
      refine List.pairwise_cons.2 ⟨fun e he => ?_, h⟩
      rcases List.mem_cons.1 he with rfl | he
      · exact hlt
      · exact String.lt_trans hlt (hr.1 e he)
    · split
      · next heq =>
        subst heq
        exact List.pairwise_cons.2 ⟨hr.1, hr.2⟩
      · next hlt hne =>
        refine List.pairwise_cons.2 ⟨fun e he => ?_, ih hr.2⟩
        have hm := mem_keys_insertEntry.1 (List.mem_map_of_mem (f := Prod.fst) he)
        rcases hm with hk | hk
        · rw [hk]
          exact lt_of_not_lt_of_ne hlt hne
        · obtain ⟨e', he', hk⟩ := List.mem_map.1 hk
          rw [← hk]
          exact hr.1 e' he'

/-- Puts a value under a key, in place of an earlier one. -/
def insert (m : SortedMap α) (k : String) (v : α) : SortedMap α :=
  ⟨insertEntry k v m.entries, sortedKeys_insertEntry m.sorted⟩

/-- The value under a key in a list of entries. -/
def lookUp? (k : String) : List (String × α) → Option α
  | [] => none
  | (k', v) :: r => if k' = k then some v else lookUp? k r

/-- The value under a key. -/
def find? (m : SortedMap α) (k : String) : Option α := lookUp? k m.entries

/-- Whether a key has a value. -/
def contains (m : SortedMap α) (k : String) : Bool := (m.find? k).isSome

/-- An insertion answers its own key with the new value and any other key as before. -/
theorem lookUp?_insertEntry (k x : String) (v : α) (entries : List (String × α)) :
    lookUp? x (insertEntry k v entries) = if k = x then some v else lookUp? x entries := by
  induction entries with
  | nil => rfl
  | cons e r ih =>
    obtain ⟨k', v'⟩ := e
    simp only [insertEntry]
    split
    · rfl
    · split
      · next h =>
        subst h
        simp only [lookUp?]
        by_cases hx : k = x <;> simp [hx]
      · next hne =>
        simp only [lookUp?, ih]
        by_cases hx : k = x
        · subst hx
          simp [Ne.symm hne]
        · simp [hx]

theorem find?_insert (m : SortedMap α) (k x : String) (v : α) :
    (m.insert k v).find? x = if k = x then some v else m.find? x :=
  lookUp?_insertEntry k x v m.entries

/-- A value that is found is one of the entries. -/
theorem mem_of_lookUp? {k : String} {v : α} {entries : List (String × α)}
    (h : lookUp? k entries = some v) : (k, v) ∈ entries := by
  induction entries with
  | nil => cases h
  | cons e r ih =>
    obtain ⟨k', v'⟩ := e
    simp only [lookUp?] at h
    split at h
    · next hk =>
      obtain rfl := Option.some.inj h
      exact hk ▸ List.mem_cons_self
    · exact List.mem_cons_of_mem _ (ih h)

theorem mem_entries_of_find? {m : SortedMap α} {k : String} {v : α} (h : m.find? k = some v) :
    (k, v) ∈ m.entries :=
  mem_of_lookUp? h

/-- An entry of a map is what is found under its key. -/
theorem find?_of_mem {m : SortedMap α} {k : String} {v : α} (h : (k, v) ∈ m.entries) :
    m.find? k = some v := by
  obtain ⟨entries, sorted⟩ := m
  simp only [find?]
  induction entries with
  | nil => cases h
  | cons e r ih =>
    obtain ⟨hlt, hr⟩ := List.pairwise_cons.1 sorted
    rcases List.mem_cons.1 h with rfl | h
    · exact if_pos rfl
    · have hne : e.1 ≠ k := fun he => String.lt_irrefl _ (he ▸ hlt _ h)
      exact (if_neg hne).trans (ih hr h)

/-- An insertion brings in no other entry. -/
theorem mem_insertEntry {k : String} {v : α} {entries : List (String × α)}
    {e : String × α} (h : e ∈ insertEntry k v entries) : e = (k, v) ∨ e ∈ entries := by
  induction entries with
  | nil => exact Or.inl (List.mem_singleton.mp h)
  | cons x r ih =>
    simp only [insertEntry] at h
    split at h
    · exact List.mem_cons.mp h
    · split at h
      · rcases List.mem_cons.mp h with h | h
        · exact Or.inl h
        · exact Or.inr (List.mem_cons_of_mem _ h)
      · rcases List.mem_cons.mp h with rfl | h
        · exact Or.inr List.mem_cons_self
        · exact (ih h).imp_right (List.mem_cons_of_mem _)

/-- The keys in increasing order. -/
def keys (m : SortedMap α) : List String := m.entries.map Prod.fst

/-- No key comes up twice. -/
theorem nodup_keys (m : SortedMap α) : m.keys.Nodup := by
  refine List.pairwise_map.mpr (m.sorted.imp ?_)
  intro a b hlt heq
  exact String.lt_irrefl b.1 (heq ▸ hlt)

/-- The number of entries. -/
def size (m : SortedMap α) : Nat := m.entries.length

/-- Whether there is no entry. -/
def isEmpty (m : SortedMap α) : Bool := m.entries.isEmpty

/-- Puts entries into a map one after another, later ones in place of earlier ones. -/
def insertAll (m : SortedMap α) (entries : List (String × α)) : SortedMap α :=
  entries.foldl (fun m (k, v) => m.insert k v) m

/-- The map of a list of entries, later ones in place of earlier ones. -/
def ofList (entries : List (String × α)) : SortedMap α := empty.insertAll entries

/-- A map holds nothing but the entries it was made of. -/
theorem mem_entries_insertAll {m : SortedMap α} {entries : List (String × α)}
    {e : String × α} (h : e ∈ (m.insertAll entries).entries) : e ∈ m.entries ∨ e ∈ entries := by
  induction entries generalizing m with
  | nil => exact Or.inl h
  | cons x r ih =>
    rcases ih (m := m.insert x.1 x.2) h with h | h
    · rcases mem_insertEntry h with rfl | h
      · exact Or.inr List.mem_cons_self
      · exact Or.inl h
    · exact Or.inr (List.mem_cons_of_mem _ h)

/-- The last of the entries under a key is found, or else what was found before. -/
theorem find?_insertAll (m : SortedMap α) (entries : List (String × α)) (k : String) :
    (m.insertAll entries).find? k =
      ((entries.filter fun e => e.1 = k).getLast?.map Prod.snd).or (m.find? k) := by
  induction entries generalizing m with
  | nil => rfl
  | cons e r ih =>
    have hr : (m.insertAll (e :: r)).find? k = ((m.insert e.1 e.2).insertAll r).find? k := rfl
    rw [hr, ih, find?_insert]
    by_cases hk : e.1 = k
    · rw [if_pos hk, List.filter_cons_of_pos (by simpa using hk), List.getLast?_cons]
      cases (r.filter fun e => e.1 = k).getLast? <;> rfl
    · rw [if_neg hk, List.filter_cons_of_neg (by simpa using hk)]

/-- A value stands behind the entries with smaller keys and before those with greater ones. -/
theorem entries_insert (m : SortedMap α) (k : String) (v : α) :
    (m.insert k v).entries =
      m.entries.filter (fun e => e.1 < k) ++ (k, v) :: m.entries.filter fun e => k < e.1 := by
  obtain ⟨entries, sorted⟩ := m
  simp only [insert]
  induction entries with
  | nil => rfl
  | cons e r ih =>
    obtain ⟨k', v'⟩ := e
    obtain ⟨hlt, hr⟩ := List.pairwise_cons.mp sorted
    have hgreater : ∀ {x : String}, x < k' ∨ x = k' →
        r.filter (fun e => e.1 < x) = [] ∧ r.filter (fun e => x < e.1) = r := by
      intro x hx
      have hall : ∀ e ∈ r, x < e.1 := fun e he =>
        hx.elim (fun h => String.lt_trans h (hlt e he)) fun h => h ▸ hlt e he
      refine ⟨List.filter_eq_nil_iff.mpr fun e he h => ?_, List.filter_eq_self.mpr fun e he => ?_⟩
      · exact String.lt_irrefl _ (String.lt_trans (hall e he) (of_decide_eq_true h))
      · exact decide_eq_true (hall e he)
    simp only [insertEntry]
    split
    · next h =>
      have hnot : ¬ k' < k := fun h' => String.lt_irrefl _ (String.lt_trans h h')
      simp only [List.filter_cons, decide_eq_true_eq, h, hnot, if_true, if_false,
        (hgreater (.inl h)).1, (hgreater (.inl h)).2, List.nil_append]
    · next h =>
      split
      · next heq =>
        subst heq
        simp only [List.filter_cons, decide_eq_true_eq, String.lt_irrefl, if_false,
          (hgreater (.inr rfl)).1, (hgreater (.inr rfl)).2, List.nil_append]
      · next hne =>
        have hlt' : k' < k := lt_of_not_lt_of_ne h hne
        simp only [List.filter_cons, decide_eq_true_eq, hlt', h, if_true, if_false, ih hr,
          List.cons_append]

/-- An insertion makes no difference to entries that are told from it by their keys. -/
theorem filter_entries_insert {p : String → Bool} {k : String} (hp : p k = false) (m : SortedMap α)
    (v : α) : (m.insert k v).entries.filter (fun e => p e.1) = m.entries.filter fun e => p e.1 := by
  obtain ⟨entries, sorted⟩ := m
  simp only [insert]
  clear sorted
  induction entries with
  | nil => simp [insertEntry, hp]
  | cons e r ih =>
    obtain ⟨k', v'⟩ := e
    simp only [insertEntry]
    split
    · simp [hp]
    · split
      · next heq =>
        subst heq
        simp [hp]
      · rw [List.filter_cons, List.filter_cons, ih]

/-- Maps with the same entries are equal. -/
@[ext] theorem ext {m n : SortedMap α} (h : m.entries = n.entries) : m = n := by
  obtain ⟨e, _⟩ := m
  obtain ⟨e', _⟩ := n
  cases h
  rfl

/-- A key beyond all others is put at the end. -/
theorem insertEntry_of_lt {k : String} {v : α} {entries : List (String × α)}
    (h : ∀ e ∈ entries, e.1 < k) : insertEntry k v entries = entries ++ [(k, v)] := by
  induction entries with
  | nil => rfl
  | cons x r ih =>
    have hx : x.1 < k := h x List.mem_cons_self
    have hlt : ¬ k < x.1 := fun hk => String.lt_irrefl _ (String.lt_trans hk hx)
    have hne : k ≠ x.1 := fun hk => String.lt_irrefl _ (hk ▸ hx)
    have hr := ih fun e he => h e (List.mem_cons_of_mem _ he)
    simp only [insertEntry, if_neg hlt, if_neg hne, hr, List.cons_append]

/-- Entries in the order of their keys are put one behind the other. -/
theorem entries_insertAll {m : SortedMap α} {entries : List (String × α)}
    (h : SortedKeys (m.entries ++ entries)) :
    (m.insertAll entries).entries = m.entries ++ entries := by
  induction entries generalizing m with
  | nil => exact (List.append_nil _).symm
  | cons x r ih =>
    have hlt : ∀ e ∈ m.entries, e.1 < x.1 := fun e he =>
      (List.pairwise_append.mp h).2.2 e he x List.mem_cons_self
    have hx : (m.insert x.1 x.2).entries = m.entries ++ [x] := insertEntry_of_lt hlt
    have happend : (m.insert x.1 x.2).entries ++ r = m.entries ++ x :: r := by
      rw [hx, List.append_assoc, List.singleton_append]
    have hr := ih (m := m.insert x.1 x.2) (happend ▸ h)
    exact hr.trans happend

/-- A map is the map of its entries. -/
@[simp] theorem ofList_entries (m : SortedMap α) : ofList m.entries = m :=
  ext (entries_insertAll m.sorted)

/-- Changes each value with the help of its key and keeps the keys. -/
def mapWithKey (f : String → α → β) (m : SortedMap α) : SortedMap β :=
  ⟨m.entries.map fun e => (e.1, f e.1 e.2), by
    rw [SortedKeys, List.pairwise_map]
    exact m.sorted⟩

/-- Changes each value and keeps the keys. -/
def map (f : α → β) (m : SortedMap α) : SortedMap β := m.mapWithKey fun _ => f

/-- What is found in a changed map is what was found before, changed. -/
theorem lookUp?_map (f : String → α → β) (k : String) (entries : List (String × α)) :
    lookUp? k (entries.map fun e => (e.1, f e.1 e.2)) = (lookUp? k entries).map (f k) := by
  induction entries with
  | nil => rfl
  | cons e r ih =>
    simp only [List.map_cons, lookUp?]
    split
    · next h => rw [h, Option.map_some]
    · exact ih

theorem find?_mapWithKey (f : String → α → β) (m : SortedMap α) (k : String) :
    (m.mapWithKey f).find? k = (m.find? k).map (f k) :=
  lookUp?_map f k m.entries

/-- Two changes after another are one change. -/
theorem mapWithKey_mapWithKey {γ : Type w} (f : String → α → β) (g : String → β → γ)
    (m : SortedMap α) : (m.mapWithKey f).mapWithKey g = m.mapWithKey fun k v => g k (f k v) :=
  ext List.map_map

end SortedMap

/-- Written items read back all together if each of them does. -/
theorem mapM_map_iff {α β : Type} {write : α → β} {read : β → Option α} {l : List α} :
    (l.map write).mapM read = some l ↔ ∀ a ∈ l, read (write a) = some a := by
  induction l with
  | nil => simp
  | cons a rest ih =>
    simp only [List.map_cons, List.mapM_cons, bind, Option.bind_eq_some_iff, pure,
      Option.some.injEq, List.cons.injEq, List.forall_mem_cons, ← ih]
    constructor
    · rintro ⟨x, hx, xs, hxs, rfl, rfl⟩
      exact ⟨hx, hxs⟩
    · rintro ⟨ha, hrest⟩
      exact ⟨a, ha, rest, hrest, rfl, rfl⟩

end ServiceControl
