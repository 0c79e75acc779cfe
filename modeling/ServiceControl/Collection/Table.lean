/-!
# Tables

A table lists entries in the order in which their keys came up first. A change keeps the places of
all entries and puts a new key at the end.
-/

namespace ServiceControl

/-- Values by key, in the order in which the keys came up. -/
abbrev Table (κ : Type u) (α : Type v) := List (κ × α)

namespace Table

variable {κ : Type u} [DecidableEq κ] {α : Type v}

/-- The value under a key. -/
def find? (key : κ) : Table κ α → Option α
  | [] => none
  | (k, a) :: r => if k = key then some a else find? key r

/-- Changes the value under a key, which may be absent before. -/
def alter (key : κ) (f : Option α → α) : Table κ α → Table κ α
  | [] => [(key, f none)]
  | (k, a) :: r => if k = key then (k, f (some a)) :: r else (k, a) :: alter key f r

/-- All values under a key that may have come up more than once, in order. -/
def valuesOf (key : κ) (t : Table κ α) : List α := (t.filter fun e => e.1 = key).map Prod.snd

/-- A change is seen under its own key only. -/
theorem find?_alter (key k : κ) (f : Option α → α) (t : Table κ α) :
    find? k (alter key f t) = if key = k then some (f (find? key t)) else find? k t := by
  induction t with
  | nil => rfl
  | cons e r ih =>
    obtain ⟨k', a⟩ := e
    by_cases h : k' = key
    · subst h
      by_cases hk : k' = k
      · subst hk
        simp only [alter, find?, ite_true]
      · simp only [alter, find?, hk, ite_true, ite_false]
    · by_cases hk : k' = k
      · subst hk
        simp only [alter, find?, h, Ne.symm h, ite_true, ite_false]
      · simp only [alter, find?, h, hk, ite_false, ih]

/-- What is added behind a table is seen where the table has nothing. -/
theorem find?_append (k : κ) (t u : Table κ α) : find? k (t ++ u) = (find? k t).or (find? k u) := by
  induction t with
  | nil => rfl
  | cons e r ih =>
    simp only [List.cons_append, find?]
    split
    · rfl
    · exact ih

/-- A value that is found is one of the entries. -/
theorem mem_of_find? {k : κ} {a : α} {t : Table κ α} (h : find? k t = some a) : (k, a) ∈ t := by
  induction t with
  | nil => cases h
  | cons e r ih =>
    simp only [find?] at h
    split at h
    · next hk =>
      obtain rfl := Option.some.inj h
      exact hk ▸ List.mem_cons_self
    · exact List.mem_cons_of_mem _ (ih h)

/-- An entry is found under its key if no key stands twice. -/
theorem find?_of_mem {k : κ} {a : α} {t : Table κ α} (hnodup : (t.map Prod.fst).Nodup)
    (h : (k, a) ∈ t) : find? k t = some a := by
  induction t with
  | nil => cases h
  | cons e r ih =>
    obtain ⟨hnot, hrest⟩ := List.nodup_cons.mp hnodup
    rcases List.mem_cons.mp h with rfl | h
    · exact if_pos rfl
    · have hne : e.1 ≠ k := fun heq => hnot (heq ▸ List.mem_map_of_mem h)
      exact (if_neg hne).trans (ih hrest h)

/-- Nothing is found exactly under the keys that did not come up. -/
theorem find?_eq_none_iff {k : κ} {t : Table κ α} : find? k t = none ↔ k ∉ t.map Prod.fst := by
  induction t with
  | nil => simp [find?]
  | cons e r ih =>
    simp only [find?, List.map_cons, List.mem_cons, not_or]
    split
    · next hk => simp [hk]
    · next hk => rw [ih, and_iff_right (Ne.symm hk)]

/-- A change brings up no key but its own. -/
theorem mem_keys_alter {key k : κ} {f : Option α → α} {t : Table κ α} :
    k ∈ (alter key f t).map Prod.fst ↔ k = key ∨ k ∈ t.map Prod.fst := by
  induction t with
  | nil => simp [alter]
  | cons e r ih =>
    obtain ⟨k', a⟩ := e
    by_cases h : k' = key
    · subst h
      simp [alter]
    · simp only [alter, h, ite_false, List.map_cons, List.mem_cons, ih]
      exact or_left_comm

/-- A change never brings up a key twice. -/
theorem nodup_keys_alter {key : κ} {f : Option α → α} {t : Table κ α}
    (h : (t.map Prod.fst).Nodup) : ((alter key f t).map Prod.fst).Nodup := by
  induction t with
  | nil => exact List.nodup_cons.mpr ⟨List.not_mem_nil, List.nodup_nil⟩
  | cons e r ih =>
    obtain ⟨k, a⟩ := e
    obtain ⟨hnot, hr⟩ := List.nodup_cons.mp h
    by_cases hk : k = key
    · rw [alter, if_pos hk]
      exact h
    · rw [alter, if_neg hk, List.map_cons]
      refine List.nodup_cons.mpr ⟨fun hmem => ?_, ih hr⟩
      rcases mem_keys_alter.mp hmem with heq | hmem
      · exact hk heq
      · exact hnot hmem

/-- What holds of all entries still holds after a change that keeps it. -/
theorem forall_mem_alter {P : κ × α → Prop} {key : κ} {f : Option α → α} {t : Table κ α}
    (h : ∀ e ∈ t, P e) (hf : ∀ o : Option α, (∀ a, o = some a → P (key, a)) → P (key, f o)) :
    ∀ e ∈ alter key f t, P e := by
  induction t with
  | nil =>
    intro e he
    obtain rfl := List.mem_singleton.mp he
    exact hf none nofun
  | cons e r ih =>
    obtain ⟨k, a⟩ := e
    have hr : ∀ e ∈ r, P e := fun e he => h e (List.mem_cons_of_mem _ he)
    by_cases hk : k = key
    · subst hk
      intro e he
      rw [alter, if_pos rfl] at he
      rcases List.mem_cons.mp he with rfl | he
      · exact hf (some a) fun b hb => Option.some.inj hb ▸ h _ List.mem_cons_self
      · exact hr e he
    · intro e he
      rw [alter, if_neg hk] at he
      rcases List.mem_cons.mp he with rfl | he
      · exact h _ List.mem_cons_self
      · exact ih hr e he

/-- What is found among changed values is what was found before, changed. -/
theorem find?_map {β : Type v} (g : α → β) (k : κ) (t : Table κ α) :
    find? k (t.map fun e => (e.1, g e.2)) = (find? k t).map g := by
  induction t with
  | nil => rfl
  | cons e r ih =>
    simp only [List.map_cons, find?]
    split
    · rfl
    · exact ih

/-- What is made of one key only is made of it as often as it occurs. -/
theorem filterMap_if_eq (key : κ) (a : α) (l : List κ) :
    l.filterMap (fun k => if k = key then some a else none) = List.replicate (l.count key) a := by
  induction l with
  | nil => rfl
  | cons k rest ih =>
    by_cases hk : k = key
    · have hhead : (if k = key then some a else none) = some a := if_pos hk
      rw [List.filterMap_cons, hhead, ih, hk, List.count_cons_self, List.replicate_succ]
    · have hhead : (if k = key then some a else none) = none := if_neg hk
      rw [List.filterMap_cons, hhead, ih, List.count_cons_of_ne hk]

/-- What is added behind a table is seen behind the other values. -/
theorem valuesOf_append (k : κ) (t u : Table κ α) :
    valuesOf k (t ++ u) = valuesOf k t ++ valuesOf k u := by
  rw [valuesOf, List.filter_append, List.map_append, valuesOf, valuesOf]

/-- Values that were all put under one key are all found there, and nowhere else. -/
theorem valuesOf_map (key k : κ) (values : List α) :
    valuesOf k (values.map fun a => (key, a)) = if key = k then values else [] := by
  by_cases h : key = k <;> simp [valuesOf, h, List.filter_map, Function.comp_def]

/-- Under a key that has not come up there are no values. -/
theorem valuesOf_eq_nil {k : κ} {t : Table κ α} (h : ∀ e ∈ t, e.1 ≠ k) : valuesOf k t = [] := by
  rw [valuesOf, List.filter_eq_nil_iff.mpr, List.map_nil]
  intro e he
  simpa using h e he

end Table

end ServiceControl
