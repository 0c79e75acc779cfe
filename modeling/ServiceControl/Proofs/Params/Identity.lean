import Mathlib.Data.List.Nodup
import ServiceControl.Proofs.Params.Ordering

/-!
# What identifies params

Params are put together field by field, in any order, with later fields in place of earlier ones of
the same name, and so are the records inside. What comes of it is told by what stands last at each
path of names, and by nothing else: params that agree at every path are the same value. The data
that params feed to a hasher tell them as well, since every part of it says where it ends.
-/

namespace ServiceControl

namespace SortedMap

variable {α : Type*} {m n : SortedMap α}

/-- An entry of a map is what is found under its key, and nothing else is. -/
theorem mem_entries_iff {k : String} {v : α} : (k, v) ∈ m.entries ↔ m.find? k = some v :=
  ⟨find?_of_mem, mem_entries_of_find?⟩

/-- Maps with the same look-ups are equal. -/
theorem eq_of_find? (h : ∀ k, m.find? k = n.find? k) : m = n := by
  have hnodup (l : SortedMap α) : l.entries.Nodup := .of_map Prod.fst l.nodup_keys
  have hperm : m.entries.Perm n.entries :=
    (List.perm_ext_iff_of_nodup (hnodup m) (hnodup n)).mpr fun e => by
      rw [mem_entries_iff, mem_entries_iff, h]
  refine ext (hperm.eq_of_pairwise (fun a b _ _ hab hba => ?_) m.sorted n.sorted)
  exact absurd (String.lt_trans hab hba) (String.lt_irrefl _)

end SortedMap

/-! ## Putting values together -/

/-- How a value is put together: the fields of a record are put in one after another. -/
inductive Assembly where
  | text (s : String)
  | int (i : Int)
  | flag (b : Bool)
  | texts (items : List String)
  | record (puts : List (String × Assembly))

namespace Assembly

mutual

/-- The value that is put together. -/
def param : Assembly → Param
  | text s => .text s
  | int i => .int i
  | flag b => .flag b
  | texts items => .texts items
  | record puts => .record (SortedMap.ofList (fields puts)).entries

/-- The fields that are put in, with their values. -/
def fields : List (String × Assembly) → List (String × Param)
  | [] => []
  | (name, a) :: rest => (name, a.param) :: fields rest

end

/-- The params that are put together of fields. -/
def params (puts : List (String × Assembly)) : Params := .ofList (fields puts)

/-- What was put in last under a name. -/
def last? (name : String) (puts : List (String × Assembly)) : Option Assembly :=
  (puts.filter fun put => put.1 = name).getLast?.map Prod.snd

end Assembly

/-- A value without what is inside. -/
def Param.bare : Param → Param
  | .record _ => .record []
  | a => a

/-- What stands at a path of names in a value, without what is inside. -/
def Param.at? : List String → Param → Option Param
  | [], a => some a.bare
  | name :: path, .record fields => (SortedMap.lookUp? name fields).bind (Param.at? path)
  | _ :: _, _ => none

/-- What was put in last at a path of names, without what was put inside. -/
def Assembly.at? : List String → Assembly → Option Param
  | [], a => some a.param.bare
  | name :: path, .record puts => (last? name puts).bind (Assembly.at? path)
  | _ :: _, _ => none

namespace Assembly

theorem fields_eq (puts : List (String × Assembly)) :
    fields puts = puts.map fun put => (put.1, put.2.param) := by
  induction puts with
  | nil => rfl
  | cons put rest ih => rw [fields, ih, List.map_cons]

/-- Under a name the params have the value of what was put in last. -/
theorem find?_params (puts : List (String × Assembly)) (name : String) :
    (params puts).find? name = (last? name puts).map param := by
  have hempty : (SortedMap.empty : Params).find? name = none := rfl
  rw [params, SortedMap.ofList, SortedMap.find?_insertAll, hempty, Option.or_none, fields_eq,
    List.filter_map, List.getLast?_map, Option.map_map, last?, Option.map_map]
  rfl

/-- A value has at each path what was put in last there. -/
theorem at?_param (a : Assembly) (path : List String) : a.param.at? path = a.at? path := by
  induction path generalizing a with
  | nil => rfl
  | cons name path ih =>
    cases a with
    | record puts =>
      have hfind : SortedMap.lookUp? name (params puts).entries = (last? name puts).map param :=
        find?_params puts name
      rw [param, Param.at?, ← params, hfind, Option.bind_map, at?]
      exact congrArg _ (funext ih)
    | _ => rfl

end Assembly

namespace Param

/-- The fields of all records in a value are in the order of their names. -/
inductive IsSorted : Param → Prop where
  | text (s : String) : IsSorted (.text s)
  | int (i : Int) : IsSorted (.int i)
  | flag (b : Bool) : IsSorted (.flag b)
  | texts (items : List String) : IsSorted (.texts items)
  | record {fields : List (String × Param)} : SortedKeys fields →
    (∀ f ∈ fields, IsSorted f.2) → IsSorted (.record fields)

/-- A value is known by what stands at its paths. -/
theorem IsSorted.eq_of_at? {a b : Param} (ha : a.IsSorted) (hb : b.IsSorted)
    (h : ∀ path, a.at? path = b.at? path) : a = b := by
  induction ha generalizing b with
  | text | int | flag | texts =>
    have hbare := Option.some.inj (h [])
    cases b <;> first | exact hbare | cases hbare
  | @record fields hsorted hfields ih =>
    cases hb with
    | @record others hsorted' hothers =>
      suffices hmaps : (⟨fields, hsorted⟩ : Params) = ⟨others, hsorted'⟩ from
        congrArg (fun m : Params => Param.record m.entries) hmaps
      refine SortedMap.eq_of_find? fun name => ?_
      have hinside (path : List String) : (SortedMap.lookUp? name fields).bind (at? path) =
          (SortedMap.lookUp? name others).bind (at? path) := h (name :: path)
      simp only [SortedMap.find?]
      cases hfind : SortedMap.lookUp? name fields with
      | none =>
        cases hfind' : SortedMap.lookUp? name others with
        | none => rfl
        | some w =>
          have hnone := hinside []
          rw [hfind, hfind'] at hnone
          cases hnone
      | some v =>
        cases hfind' : SortedMap.lookUp? name others with
        | none =>
          have hnone := hinside []
          rw [hfind, hfind'] at hnone
          cases hnone
        | some w =>
          refine congrArg some (ih (name, v) (SortedMap.mem_of_lookUp? hfind)
            (hothers (name, w) (SortedMap.mem_of_lookUp? hfind')) fun path => ?_)
          have hpath := hinside path
          rwa [hfind, hfind'] at hpath
    | _ => cases Option.some.inj (h [])

end Param

namespace Assembly

mutual

/-- What is put together has its fields in order. -/
theorem isSorted_param : (a : Assembly) → a.param.IsSorted
  | text s => .text s
  | int i => .int i
  | flag b => .flag b
  | texts items => .texts items
  | record puts => .record (params puts).sorted fun f hf =>
    forall_isSorted_fields puts f
      ((SortedMap.mem_entries_insertAll hf).resolve_left List.not_mem_nil)

theorem forall_isSorted_fields : (puts : List (String × Assembly)) → ∀ f ∈ fields puts, f.2.IsSorted
  | [] => fun _ h => by cases h
  | (_, a) :: rest =>
    List.forall_mem_cons.mpr ⟨isSorted_param a, forall_isSorted_fields rest⟩

end

/-- Values that are put together are equal exactly if they agree at every path. -/
theorem param_eq_iff {a b : Assembly} :
    a.param = b.param ↔ ∀ path, a.at? path = b.at? path := by
  constructor
  · intro h path
    rw [← at?_param, h, at?_param]
  · intro h
    refine a.isSorted_param.eq_of_at? b.isSorted_param fun path => ?_
    rw [at?_param, at?_param, h]

/-- So are params. -/
theorem params_eq_iff {puts others : List (String × Assembly)} :
    params puts = params others ↔
      ∀ path, (record puts).at? path = (record others).at? path := by
  rw [← param_eq_iff, param, param, Param.record.injEq, ← SortedMap.ext_iff]
  rfl

end Assembly

/-! ## Data for a hasher -/

/-- Each of the data of a list of fields says where it ends, if that of each value does. -/
theorem Param.fieldsHashParts_append_inj {a : List (String × Param)}
    (h : ∀ f ∈ a, ∀ (v : Param) (r s : List HashPart),
      f.2.hashParts ++ r = v.hashParts ++ s → f.2 = v ∧ r = s)
    {b : List (String × Param)} (hlength : a.length = b.length) {r s : List HashPart}
    (hparts : fieldsHashParts a ++ r = fieldsHashParts b ++ s) : a = b ∧ r = s := by
  induction a generalizing b with
  | nil =>
    obtain rfl := List.length_eq_zero_iff.mp hlength.symm
    exact ⟨rfl, hparts⟩
  | cons f rest ih =>
    obtain ⟨hf, hrest⟩ := List.forall_mem_cons.mp h
    cases b with
    | nil => cases hlength
    | cons g b =>
      simp only [fieldsHashParts, List.cons_append, List.append_assoc, List.cons.injEq,
        HashPart.text.injEq] at hparts
      obtain ⟨hvalue, hmore⟩ := hf g.2 _ _ hparts.2
      obtain ⟨rfl, rfl⟩ := ih hrest (Nat.succ.inj hlength) hmore
      exact ⟨congrArg (· :: _) (Prod.ext hparts.1 hvalue), rfl⟩

/-- The data of a value tell the value, whatever data follow. -/
theorem Param.hashParts_append_inj (a b : Param) {r s : List HashPart}
    (h : a.hashParts ++ r = b.hashParts ++ s) : a = b ∧ r = s := by
  induction a using Param.induction generalizing b r s with
  | text x => cases b <;> simp_all [hashParts]
  | int i => cases b <;> simp_all [hashParts]
  | flag x =>
    cases b with
    | flag y => cases x <;> cases y <;> simp_all [hashParts]
    | _ => simp [hashParts] at h
  | texts l =>
    cases b with
    | texts m =>
      simp only [hashParts, List.cons_append, List.cons.injEq, HashPart.length.injEq,
        true_and] at h
      obtain ⟨hlength, hparts⟩ := h
      obtain ⟨hitems, hrest⟩ := List.append_inj hparts (by simpa using hlength)
      have hinjective : Function.Injective HashPart.text := fun _ _ => HashPart.text.inj
      exact ⟨congrArg Param.texts (List.map_injective_iff.mpr hinjective hitems), hrest⟩
    | _ => simp [hashParts] at h
  | record fields ih =>
    cases b with
    | record others =>
      simp only [hashParts, List.cons_append, List.cons.injEq, HashPart.length.injEq,
        true_and] at h
      obtain ⟨hfields, hrest⟩ :=
        fieldsHashParts_append_inj (fun f hf v r s => ih f hf v) h.1 h.2
      exact ⟨congrArg Param.record hfields, hrest⟩
    | _ => simp [hashParts] at h

/-- Params feed the same data to a hasher exactly if they are equal. -/
theorem Params.hashParts_eq_iff {a b : Params} : a.hashParts = b.hashParts ↔ a = b := by
  refine ⟨fun h => ?_, fun h => h ▸ rfl⟩
  obtain ⟨hlength, hparts⟩ := List.cons.inj h
  have hnil := congrArg (· ++ ([] : List HashPart)) hparts
  exact SortedMap.ext (Param.fieldsHashParts_append_inj
    (fun f _ v _ _ => f.2.hashParts_append_inj v) (HashPart.length.inj hlength) hnil).1

end ServiceControl
