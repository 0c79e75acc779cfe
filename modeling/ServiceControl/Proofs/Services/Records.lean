import ServiceControl.Services.Yaml

/-!
# Reading mappings from distinct names

Writing makes every record a mapping from distinct names. Such a mapping is read alike in
place and gathered: as a record it has the fields with a declared name, and as an embedding
mapping it is split by the names that it declares itself. A map is read back entry by entry,
in the order of its keys.
-/

namespace ServiceControl

namespace Services

open Yaml (Value)

/-- The mapping from the names of fields to their values. -/
def recordValue (fields : Fields) : Value := .map (fields.map fun f => (.str f.1, f.2))

/-- The fields with a name among the given ones. -/
def ofNames (names : List String) (fields : Fields) : Fields := fields.filter (·.1 ∈ names)

/-- The fields with any other name. -/
def otherThan (names : List String) (fields : Fields) : Fields := fields.filter (·.1 ∉ names)

section

variable {names : List String} {f : String × Value} {fields : Fields}

theorem ofNames_cons_of_mem (h : f.1 ∈ names) :
    ofNames names (f :: fields) = f :: ofNames names fields :=
  List.filter_cons_of_pos (decide_eq_true h)

theorem ofNames_cons_of_notMem (h : f.1 ∉ names) :
    ofNames names (f :: fields) = ofNames names fields :=
  List.filter_cons_of_neg (by simpa using h)

theorem otherThan_cons_of_mem (h : f.1 ∈ names) :
    otherThan names (f :: fields) = otherThan names fields :=
  List.filter_cons_of_neg (by simpa using h)

theorem otherThan_cons_of_notMem (h : f.1 ∉ names) :
    otherThan names (f :: fields) = f :: otherThan names fields :=
  List.filter_cons_of_pos (decide_eq_true h)

end

/-- A field whose name is not there yet is added. -/
theorem addField?_ofNames {names : List String} {f : String × Value} {fields : Fields}
    (h : f.1 ∉ fields.map Prod.fst) :
    addField? f.1 f.2 (ofNames names fields) = some (f :: ofNames names fields) := by
  have hnone : ((ofNames names fields).any fun x => x.1 == f.1) = false := by
    simp only [List.any_eq_false, beq_iff_eq]
    intro x hx he
    exact h (he ▸ List.mem_map_of_mem (List.mem_filter.mp hx).1)
  simp only [addField?, hnone, Bool.false_eq_true, if_false]

/-- The key of a field is its name. -/
@[simp] theorem key?_str (o : Origin) (name : String) : key? o (.str name) = some (.name name) := by
  cases o <;> rfl

theorem recordEntries?_eq {names : List String} (o : Origin) {fields : Fields}
    (h : (fields.map Prod.fst).Nodup) :
    recordEntries? names o (fields.map fun f => (.str f.1, f.2)) = some (ofNames names fields) := by
  induction fields with
  | nil => rfl
  | cons f rest ih =>
    obtain ⟨hf, hrest⟩ := List.nodup_cons.mp h
    simp only [List.map_cons, recordEntries?, key?_str, ih hrest, bind, Option.bind_some]
    by_cases hname : f.1 ∈ names
    · simp only [hname, if_true, addField?_ofNames hf, ofNames_cons_of_mem hname]
    · simp only [hname, if_false, ofNames_cons_of_notMem hname]

/-- The declared fields of a mapping from distinct names are those with a declared name. -/
theorem record?_recordValue {names : List String} (o : Origin) (fields : Fields)
    (h : (fields.map Prod.fst).Nodup) :
    record? names o (recordValue fields) = some (ofNames names fields) := by
  cases o <;> exact recordEntries?_eq _ h

theorem splitEntries?_eq {names : List String} (o : Origin) {fields : Fields}
    (h : (fields.map Prod.fst).Nodup) (htags : ∀ f ∈ otherThan names fields, tagFree f.2 = true) :
    splitEntries? names o (fields.map fun f => (.str f.1, f.2)) =
      some (ofNames names fields, otherThan names fields) := by
  induction fields with
  | nil => rfl
  | cons f rest ih =>
    obtain ⟨hf, hrest⟩ := List.nodup_cons.mp h
    by_cases hname : f.1 ∈ names
    · rw [otherThan_cons_of_mem hname] at htags
      simp only [List.map_cons, splitEntries?, key?_str, ih hrest htags, bind, Option.bind_some,
        hname, if_true, addField?_ofNames hf, pure, ofNames_cons_of_mem hname,
        otherThan_cons_of_mem hname]
    · rw [otherThan_cons_of_notMem hname, List.forall_mem_cons] at htags
      simp only [List.map_cons, splitEntries?, key?_str, ih hrest htags.2, bind, Option.bind_some,
        hname, if_false, htags.1, if_true, pure, ofNames_cons_of_notMem hname,
        otherThan_cons_of_notMem hname]

/-- An embedding mapping from distinct names is split by the names that it declares, if there are no
tags in what it gathers. -/
theorem split?_recordValue {names : List String} (o : Origin) (fields : Fields)
    (h : (fields.map Prod.fst).Nodup) (htags : ∀ f ∈ otherThan names fields, tagFree f.2 = true) :
    split? names o (recordValue fields) = some (ofNames names fields, otherThan names fields) := by
  cases o <;> exact splitEntries?_eq _ h htags

/-- The declared fields of an embedded part are those with a declared name. -/
theorem embedded?_eq {names : List String} {fields : Fields} (h : (fields.map Prod.fst).Nodup) :
    embedded? names fields = some (ofNames names fields) := by
  induction fields with
  | nil => rfl
  | cons f rest ih =>
    obtain ⟨hf, hrest⟩ := List.nodup_cons.mp h
    simp only [embedded?, ih hrest, bind, Option.bind_some]
    by_cases hname : f.1 ∈ names
    · simp only [hname, if_true, addField?_ofNames hf, ofNames_cons_of_mem hname]
    · simp only [hname, if_false, ofNames_cons_of_notMem hname]

/-- A map is read back if its values are. -/
theorem map?_mapValue {α : Type} {write : α → Value} {read : Value → Option α} {m : SortedMap α}
    (h : ∀ x ∈ m.entries, read (write x.2) = some x.2) : map? read (mapValue write m) = some m := by
  have hpair : ∀ x ∈ m.entries, ((text? .direct (.str x.1)).bind fun name =>
      (read (write x.2)).bind fun a => some (name, a)) = some x := by
    intro x hx
    have htext : text? .direct (.str x.1) = some x.1 := rfl
    simp only [htext, h x hx, Option.bind_some]
  have hentries : entries? .direct (mapValue write m) =
      some (m.entries.map fun e => (.str e.1, write e.2)) := rfl
  have hpairs : (m.entries.map fun e => (Value.str e.1, write e.2)).mapM (fun e =>
      (text? .direct e.1).bind fun name => (read e.2).bind fun a => some (name, a)) =
        some m.entries := mapM_map_iff.mpr hpair
  simp only [map?, hentries, bind, Option.bind_some, pure, hpairs, SortedMap.ofList_entries]

end Services

end ServiceControl
