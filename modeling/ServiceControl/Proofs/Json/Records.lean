import Mathlib.Data.List.Basic
import ServiceControl.Json.Record

/-!
# Records read back

A record is written as an object whose fields have different names, all of them declared. Reading
finds each field under its name, so a record reads back if what stands under its names does. Maps
read back because their keys increase, and free data because they are canonical.
-/

namespace ServiceControl.Json

/-! ### Fields -/

/-- All fields of an object are found if they are declared and none stands twice. -/
theorem namedFields?_eq {names : List String} {fields : List (String × Json)}
    (hnodup : (fields.map Prod.fst).Nodup) (hnames : ∀ f ∈ fields, f.1 ∈ names) :
    namedFields? names fields = some fields := by
  induction fields with
  | nil => rfl
  | cons f rest ih =>
    obtain ⟨hf, hrest⟩ := List.nodup_cons.mp hnodup
    have hnone : rest.find? (·.1 == f.1) = none := by
      simp only [List.find?_eq_none, beq_iff_eq]
      intro x hx he
      exact hf (he ▸ List.mem_map_of_mem hx)
    simp only [namedFields?, ih hrest fun x hx => hnames x (List.mem_cons_of_mem _ hx), bind,
      Option.bind_some, hnames f List.mem_cons_self, if_true, hnone, Option.isSome_none,
      Bool.false_eq_true, if_false, pure]

/-- An object with some of the declared fields, in their order, is the record of its fields. -/
theorem record?_obj {names : List String} {fields : List (String × Json)} (hnodup : names.Nodup)
    (hfields : (fields.map Prod.fst).Sublist names) : record? names (.obj fields) = some fields :=
  namedFields?_eq (hnodup.sublist hfields) fun _ hf => hfields.subset (List.mem_map_of_mem hf)

@[simp] theorem text?_str (s : String) : text? (.str s) = some s := rfl

theorem text?_null : text? .null = none := rfl

@[simp] theorem bool?_bool (b : Bool) : bool? (.bool b) = some b := rfl

theorem bool?_null : bool? .null = none := rfl

theorem double?_null : double? .null = none := rfl

theorem payload?_null : payload? .null = none := rfl

namespace Record

@[simp] theorem get?_nil (name : String) : get? [] name = none := rfl

@[simp] theorem get?_cons (f : String × Json) (r : Record) (name : String) :
    get? (f :: r) name = if f.1 = name then some f.2 else get? r name := by
  by_cases h : f.1 = name <;> simp [get?, h]

/-- What stands in the first part of a record counts. -/
@[simp] theorem get?_append (r s : Record) (name : String) :
    get? (r ++ s) name = (get? r name).or (get? s name) := by
  rw [get?, List.find?_append, Option.map_or, get?, get?]

end Record

/-- A field that is present is read. -/
theorem Record.withDefault_eq {α : Type} (r : Record) (name : String) (d : α)
    (read : Json → Option α) :
    r.withDefault name d read = ((r.get? name).map read).getD (some d) := by
  unfold withDefault
  cases r.get? name <;> rfl

/-- Reads what may be absent or null. -/
def readOptional {α : Type} (read : Json → Option α) : Option Json → Option (Option α)
  | some .null => some none
  | some j => (read j).map some
  | none => some none

theorem Record.optional_eq {α : Type} (r : Record) (name : String) (read : Json → Option α) :
    r.optional name read = readOptional read (r.get? name) := by
  unfold optional readOptional
  cases r.get? name with
  | none => rfl
  | some j => cases j <;> rfl

section

variable {α : Type} {read : Json → Option α} {write : α → Json} {v : Option α}

/-- What is left out if it is not there reads back if the value does; null is no value. -/
theorem readOptional_map_iff (hnull : read .null = none) :
    readOptional read (v.map write) = some v ↔ ∀ x ∈ v, read (write x) = some x := by
  cases v with
  | none =>
    simp only [readOptional, Option.map_none, Option.not_mem_none, false_implies, implies_true]
  | some x =>
    simp only [Option.map_some, Option.mem_some_iff, forall_eq']
    cases hwrite : write x <;>
      simp only [readOptional, hnull, Option.map_eq_some_iff, Option.some.injEq, exists_eq_right,
        reduceCtorEq]

/-- What is written as null if it is not there reads back if the value does. -/
theorem readOptional_getD_iff (hnull : read .null = none) :
    readOptional read (some ((v.map write).getD .null)) = some v ↔
      ∀ x ∈ v, read (write x) = some x := by
  cases v with
  | none =>
    simp only [readOptional, Option.map_none, Option.getD_none, Option.not_mem_none, false_implies,
      implies_true]
  | some x => exact readOptional_map_iff (v := some x) hnull

end

/-! ### Lists, maps and free data -/

/-- A list reads back if its items do. -/
theorem list?_map_iff {α : Type} {write : α → Json} {read : Json → Option α} {l : List α} :
    list? read (.arr (l.map write)) = some l ↔ ∀ a ∈ l, read (write a) = some a :=
  mapM_map_iff

/-- A map reads back if its values do. -/
theorem map?_eq_some {α : Type} {write : α → Json} {read : Json → Option α} {m : SortedMap α}
    (h : ∀ x ∈ m.entries, read (write x.2) = some x.2) :
    map? read (.obj (m.map write).entries) = some m := by
  have hentries : ((m.map write).entries.mapM fun e => (read e.2).map (e.1, ·)) =
      some m.entries := by
    refine mapM_map_iff.mpr fun x hx => ?_
    rw [h x hx, Option.map_some]
  rw [map?, hentries, Option.map_some, SortedMap.ofList_entries]

mutual

/-- A canonical value is its canonical form. -/
theorem canonical?_eq {j : Json} (h : isCanonical j = true) : canonical? j = some j := by
  match j with
  | .null | .bool _ | .int _ | .float _ | .str _ => rfl
  | .fault => cases h
  | .arr items => rw [canonical?, canonicalItems?_eq h, Option.map_some]
  | .obj fields =>
    simp only [isCanonical, Bool.and_eq_true, decide_eq_true_eq] at h
    have hsorted : SortedKeys ([] ++ fields) := h.1
    rw [canonical?, canonicalFields?_eq hsorted h.2, Option.map_some, List.nil_append]

theorem canonicalItems?_eq {items : List Json} (h : itemsCanonical items = true) :
    canonicalItems? items = some items := by
  match items with
  | [] => rfl
  | j :: rest =>
    simp only [itemsCanonical, Bool.and_eq_true] at h
    simp only [canonicalItems?, canonical?_eq h.1, canonicalItems?_eq h.2, bind, Option.bind_some,
      pure]

/-- Canonical fields in the order of their keys are put one behind the other. -/
theorem canonicalFields?_eq {sorted fields : List (String × Json)}
    (hsorted : SortedKeys (sorted ++ fields)) (h : fieldsCanonical fields = true) :
    canonicalFields? sorted fields = some (sorted ++ fields) := by
  match fields with
  | [] => rw [canonicalFields?, List.append_nil]
  | (k, j) :: rest =>
    simp only [fieldsCanonical, Bool.and_eq_true] at h
    have hlt : ∀ e ∈ sorted, e.1 < k := fun e he =>
      (List.pairwise_append.mp hsorted).2.2 e he (k, j) List.mem_cons_self
    have happend : sorted ++ [(k, j)] ++ rest = sorted ++ (k, j) :: rest := by
      rw [List.append_assoc, List.singleton_append]
    rw [← happend] at hsorted ⊢
    simp only [canonicalFields?, canonical?_eq h.1, bind, Option.bind_some,
      SortedMap.insertEntry_of_lt hlt]
    exact canonicalFields?_eq hsorted h.2

end

/-- Free data is carried unchanged. -/
theorem payload?_fields (p : Payload) : payload? (.obj p.fields) = some p := by
  have hcanonical : canonical? (.obj p.fields) = some (.obj p.fields) := canonical?_eq p.canonical
  rw [payload?, Payload.ofFields?]
  split
  · next sorted h =>
    rw [hcanonical] at h
    obtain ⟨fields, _⟩ := p
    obtain rfl := Json.obj.inj (Option.some.inj h)
    rfl
  · next h => exact absurd hcanonical (h p.fields)

end ServiceControl.Json
