import Mathlib.Data.List.Basic
import ServiceControl.Params.Basic

/-!
# The order of typed params

Values are compared by variant and then by content, and params as sequences of names and values. The
comparison is a total order on values of any nesting, and it answers equal exactly for equal values.
A record is compared like a list of fields, so each law of the order is an induction on the value
with the law for lists as its one step.
-/

namespace ServiceControl

/-! ## Lists in the order of their items -/

section

variable {α : Type*} {cmp : α → α → Ordering} {l : List α}

/-- Lists are equal in their order if equality of the items of one of them is. -/
theorem compareLex_eq_iff (h : ∀ x ∈ l, ∀ y, cmp x y = .eq ↔ x = y) (m : List α) :
    List.compareLex cmp l m = .eq ↔ l = m := by
  induction l generalizing m with
  | nil => cases m <;> simp [List.compareLex]
  | cons x rest ih =>
    obtain ⟨hx, hrest⟩ := List.forall_mem_cons.mp h
    cases m with
    | nil => simp [List.compareLex]
    | cons y m =>
      rw [List.compareLex_cons_cons, Ordering.then_eq_eq, hx, ih hrest, List.cons.injEq]

/-- Lists are compared the other way round if the items of one of them are. -/
theorem compareLex_swap (h : ∀ x ∈ l, ∀ y, cmp x y = (cmp y x).swap) (m : List α) :
    List.compareLex cmp l m = (List.compareLex cmp m l).swap := by
  induction l generalizing m with
  | nil => cases m <;> rfl
  | cons x rest ih =>
    obtain ⟨hx, hrest⟩ := List.forall_mem_cons.mp h
    cases m with
    | nil => rfl
    | cons y m =>
      rw [List.compareLex_cons_cons, List.compareLex_cons_cons, Ordering.swap_then, hx, ih hrest]

/-- Being less carries over from the items of a list to the list. -/
theorem compareLex_lt_trans (heq : ∀ x y, cmp x y = .eq ↔ x = y)
    (h : ∀ x ∈ l, ∀ y z, cmp x y = .lt → cmp y z = .lt → cmp x z = .lt) {m n : List α}
    (hlm : List.compareLex cmp l m = .lt) (hmn : List.compareLex cmp m n = .lt) :
    List.compareLex cmp l n = .lt := by
  induction l generalizing m n with
  | nil =>
    cases m <;> cases n <;> simp_all [List.compareLex]
  | cons x rest ih =>
    obtain ⟨hx, hrest⟩ := List.forall_mem_cons.mp h
    cases m with
    | nil => cases hlm
    | cons y m =>
      cases n with
      | nil => cases hmn
      | cons z n =>
        rw [List.compareLex_cons_cons, Ordering.then_eq_lt, heq] at hlm hmn ⊢
        -- the first items that differ decide
        rcases hlm with hxy | ⟨rfl, hlm⟩
        · rcases hmn with hyz | ⟨rfl, -⟩
          · exact .inl (hx y z hxy hyz)
          · exact .inl hxy
        · rcases hmn with hyz | ⟨rfl, hmn⟩
          · exact .inl hyz
          · exact .inr ⟨rfl, ih hrest hlm hmn⟩

end

namespace Param

/-- What holds of a record whenever it holds of the values of its fields, and of all values that are
no records, holds of every value. -/
@[elab_as_elim] theorem induction {motive : Param → Prop} (text : ∀ s, motive (.text s))
    (int : ∀ i, motive (.int i)) (flag : ∀ b, motive (.flag b))
    (texts : ∀ items, motive (.texts items))
    (record : ∀ fields, (∀ f ∈ fields, motive f.2) → motive (.record fields)) (a : Param) :
    motive a :=
  @Param.rec motive (fun fields => ∀ f ∈ fields, motive f.2) (fun f => motive f.2) text int flag
    texts record (fun _ h => by cases h)
    (fun _ _ hf hrest => List.forall_mem_cons.mpr ⟨hf, hrest⟩) (fun _ _ h => h) a

/-- Fields are compared by name, then by value. -/
def compareField (f g : String × Param) : Ordering := (compare f.1 g.1).then (f.2.cmp g.2)

/-- Records are compared as sequences of fields. -/
theorem cmpFields_eq (a b : List (String × Param)) :
    cmpFields a b = List.compareLex compareField a b := by
  induction a generalizing b with
  | nil => cases b <;> simp [cmpFields, List.compareLex]
  | cons f rest ih =>
    cases b with
    | nil => simp [cmpFields, List.compareLex]
    | cons g b => rw [cmpFields, ih, List.compareLex_cons_cons, compareField]

/-- Lists of texts are compared as sequences. -/
theorem compareTexts_eq (a b : List String) :
    compareTexts a b = List.compareLex compare a b := by
  induction a generalizing b with
  | nil => cases b <;> simp [compareTexts, List.compareLex]
  | cons s rest ih =>
    cases b with
    | nil => simp [compareTexts, List.compareLex]
    | cons t b => rw [compareTexts, ih, List.compareLex_cons_cons]

/-- Values of different variants are compared by variant. -/
theorem cmp_of_variant_ne {a b : Param} (h : a.variant ≠ b.variant) :
    a.cmp b = compare a.variant b.variant := by
  cases a <;> cases b <;> first | rfl | exact absurd rfl h

/-- No value is less than one of an earlier variant. -/
theorem variant_le_of_cmp {a b : Param} (h : a.cmp b = .lt) : a.variant ≤ b.variant := by
  by_contra hlt
  rw [cmp_of_variant_ne (by omega), Nat.compare_eq_lt] at h
  omega

/-- Only equal values compare equal. -/
theorem cmp_eq_iff (a b : Param) : a.cmp b = .eq ↔ a = b := by
  induction a using Param.induction generalizing b with
  | text s => cases b <;> simp [cmp, variant]
  | int i => cases b <;> simp [cmp, variant]
  | flag x =>
    cases b with
    | flag y => cases x <;> cases y <;> simp [cmp]
    | _ => simp [cmp, variant]
  | texts l =>
    cases b with
    | texts m =>
      rw [cmp, compareTexts_eq, texts.injEq,
        compareLex_eq_iff fun _ _ _ => Std.LawfulEqCmp.compare_eq_iff_eq]
    | _ => simp [cmp, variant]
  | record fields ih =>
    cases b with
    | record others =>
      rw [cmp, cmpFields_eq, compareLex_eq_iff, record.injEq]
      intro f hf g
      rw [compareField, Ordering.then_eq_eq, Std.LawfulEqCmp.compare_eq_iff_eq, ih f hf,
        Prod.ext_iff]
    | _ => simp [cmp, variant]

/-- The comparison the other way round has the other answer. -/
theorem cmp_swap (a b : Param) : a.cmp b = (b.cmp a).swap := by
  induction a using Param.induction generalizing b with
  | text s =>
    cases b with
    | text t =>
      rw [cmp, cmp]
      exact Std.OrientedCmp.eq_swap
    | _ => rfl
  | int i =>
    cases b with
    | int j =>
      rw [cmp, cmp]
      exact Std.OrientedCmp.eq_swap
    | _ => rfl
  | flag x =>
    cases b with
    | flag y => cases x <;> cases y <;> rfl
    | _ => rfl
  | texts l =>
    cases b with
    | texts m =>
      rw [cmp, cmp, compareTexts_eq, compareTexts_eq]
      exact compareLex_swap (fun _ _ _ => Std.OrientedCmp.eq_swap) m
    | _ => rfl
  | record fields ih =>
    cases b with
    | record others =>
      rw [cmp, cmp, cmpFields_eq, cmpFields_eq]
      refine compareLex_swap (fun f hf g => ?_) others
      have hname : compare f.1 g.1 = (compare g.1 f.1).swap := Std.OrientedCmp.eq_swap
      rw [compareField, compareField, Ordering.swap_then, hname, ih f hf]
    | _ => rfl

/-- Equality of fields is equality of names and values. -/
theorem compareField_eq_iff (f g : String × Param) : compareField f g = .eq ↔ f = g := by
  rw [compareField, Ordering.then_eq_eq, Std.LawfulEqCmp.compare_eq_iff_eq, cmp_eq_iff,
    Prod.ext_iff]

/-- Being less carries over from the values of fields to the fields. -/
theorem compareField_lt_trans {f g h : String × Param}
    (hvalues : f.2.cmp g.2 = .lt → g.2.cmp h.2 = .lt → f.2.cmp h.2 = .lt)
    (hfg : compareField f g = .lt) (hgh : compareField g h = .lt) : compareField f h = .lt := by
  rw [compareField, Ordering.then_eq_lt, Std.LawfulEqCmp.compare_eq_iff_eq] at hfg hgh ⊢
  rcases hfg with hfg | ⟨hfg, hvalue⟩ <;> rcases hgh with hgh | ⟨hgh, hvalue'⟩
  · exact .inl (Std.TransCmp.lt_trans hfg hgh)
  · exact .inl (hgh ▸ hfg)
  · exact .inl (hfg ▸ hgh)
  · exact .inr ⟨hfg.trans hgh, hvalues hvalue hvalue'⟩

/-- Between values of different variants being less is transitive. -/
theorem cmp_lt_of_variant_ne {a b c : Param} (hab : a.cmp b = .lt) (hbc : b.cmp c = .lt)
    (h : a.variant ≠ c.variant) : a.cmp c = .lt := by
  have hle := variant_le_of_cmp hab
  have hle' := variant_le_of_cmp hbc
  rw [cmp_of_variant_ne h, Nat.compare_eq_lt]
  omega

/-- Being less is transitive. -/
theorem cmp_lt_trans {a b c : Param} (hab : a.cmp b = .lt) (hbc : b.cmp c = .lt) :
    a.cmp c = .lt := by
  induction a using Param.induction generalizing b c with
  | text s =>
    cases c with
    | text u =>
      cases b with
      | text t =>
        rw [cmp] at hab hbc ⊢
        exact Std.TransCmp.lt_trans hab hbc
      | _ => cases hbc
    | _ => exact cmp_lt_of_variant_ne hab hbc (by simp [variant])
  | int i =>
    cases c with
    | int k =>
      cases b with
      | int j =>
        rw [cmp] at hab hbc ⊢
        exact Std.TransCmp.lt_trans hab hbc
      | text _ => cases hab
      | _ => cases hbc
    | _ => exact cmp_lt_of_variant_ne hab hbc (by simp [variant])
  | flag x =>
    cases c with
    | flag z =>
      cases b with
      | flag y =>
        rw [cmp] at hab hbc ⊢
        exact Std.TransCmp.lt_trans hab hbc
      | text _ | int _ => cases hab
      | _ => cases hbc
    | _ => exact cmp_lt_of_variant_ne hab hbc (by simp [variant])
  | texts l =>
    cases c with
    | texts n =>
      cases b with
      | texts m =>
        rw [cmp, compareTexts_eq] at hab hbc ⊢
        exact Std.TransCmp.lt_trans hab hbc
      | record _ => cases hbc
      | _ => cases hab
    | _ => exact cmp_lt_of_variant_ne hab hbc (by simp [variant])
  | record fields ih =>
    cases c with
    | record last =>
      cases b with
      | record others =>
        rw [cmp, cmpFields_eq] at hab hbc ⊢
        exact compareLex_lt_trans compareField_eq_iff
          (fun f hf _ _ => compareField_lt_trans fun hfg hgh => ih f hf hfg hgh) hab hbc
      | _ => cases hab
    | _ => exact cmp_lt_of_variant_ne hab hbc (by simp [variant])

instance : Std.LawfulEqCmp cmp where
  compare_self := (cmp_eq_iff _ _).mpr rfl
  eq_of_compare := (cmp_eq_iff _ _).mp

instance : Std.TransCmp cmp where
  eq_swap := cmp_swap _ _
  isLE_trans {a b c} hab hbc := by
    rw [Ordering.isLE_iff_eq_lt_or_eq_eq, cmp_eq_iff] at hab hbc ⊢
    rcases hab with hab | rfl
    · rcases hbc with hbc | rfl
      · exact .inl (cmp_lt_trans hab hbc)
      · exact .inl hab
    · exact hbc

/-- A value of an earlier variant is less. -/
theorem cmp_of_variant_lt {a b : Param} (h : a.variant < b.variant) : a.cmp b = .lt := by
  rw [cmp_of_variant_ne (Nat.ne_of_lt h), Nat.compare_eq_lt]
  exact h

end Param

namespace Params

/-- Params are compared like the record of their fields. -/
theorem cmp_eq (a b : Params) : cmp a b = (Param.record a.entries).cmp (.record b.entries) := rfl

instance : Std.LawfulEqCmp cmp where
  compare_self {a} := (Param.cmp_eq_iff (.record a.entries) (.record a.entries)).mpr rfl
  eq_of_compare {a b} h :=
    SortedMap.ext (Param.record.inj ((Param.cmp_eq_iff _ _).mp ((cmp_eq a b).symm.trans h)))

instance : Std.TransCmp cmp where
  eq_swap {a b} := Param.cmp_swap (.record a.entries) (.record b.entries)
  isLE_trans {a b c} hab hbc := by
    rw [cmp_eq] at hab hbc ⊢
    exact Std.TransCmp.isLE_trans hab hbc

end Params

/-- A comparison puts all values in a row, one behind the other, and only equal
ones at one place. -/
structure IsTotalOrder {α : Type*} (cmp : α → α → Ordering) : Prop where
  refl : ∀ a, (cmp a a).isLE
  antisymm : ∀ a b, (cmp a b).isLE → (cmp b a).isLE → a = b
  trans : ∀ a b c, (cmp a b).isLE → (cmp b c).isLE → (cmp a c).isLE
  total : ∀ a b, (cmp a b).isLE ∨ (cmp b a).isLE
  eq_iff : ∀ a b, cmp a b = .eq ↔ a = b
  swap : ∀ a b, cmp a b = (cmp b a).swap

theorem IsTotalOrder.of_lawful {α : Type*} (cmp : α → α → Ordering) [Std.TransCmp cmp]
    [Std.LawfulEqCmp cmp] : IsTotalOrder cmp where
  refl _ := Std.ReflCmp.isLE_rfl
  antisymm _ _ hab hba := Std.LawfulEqCmp.eq_of_compare (Std.OrientedCmp.isLE_antisymm hab hba)
  trans _ _ _ := Std.TransCmp.isLE_trans
  total a b := by
    have hswap : cmp b a = (cmp a b).swap := Std.OrientedCmp.eq_swap
    rw [hswap]
    cases cmp a b <;> simp
  eq_iff _ _ := Std.LawfulEqCmp.compare_eq_iff_eq
  swap _ _ := Std.OrientedCmp.eq_swap

end ServiceControl
