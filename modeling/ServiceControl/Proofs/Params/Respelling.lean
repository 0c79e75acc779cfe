import ServiceControl.Proofs.Params.Reporting

/-!
# Spellings that make no difference to decoding

A mapping may be respelled: its entries reordered, its keys written in other case, entries that no
field reads put in or left out, and an empty mapping written for an absent record. Decoding gives
the same for a mapping and its respellings, provided that no two of its keys are the same up to
case; else their order would decide. So configurations that differ in spelling only have one key.

A key counts for every field that it spells, and a schema may declare names that are the same up to
case. A respelling has to be one for all of the fields that read it.
-/

namespace ServiceControl

/-- Whether a key spells a name. -/
def Yaml.Value.spells : Yaml.Value → String → Bool
  | .str key, name => Text.SameLetters key name
  | _, _ => false

/-- Keys that are the same up to case spell the same names. -/
theorem Yaml.Value.spells_congr {k l : String} (h : Text.SameLetters k l) (name : String) :
    (Yaml.Value.str k).spells name = (Yaml.Value.str l).spells name :=
  decide_eq_decide.mpr ⟨h.symm.trans, h.trans⟩

namespace Entries

/-- All values under keys that spell a name, without nulls. -/
def valuesOf (entries : Entries) (name : String) : List Yaml.Value :=
  (entries.filter fun entry => entry.1.spells name && !entry.2.isNull).map Prod.snd

theorem mem_valuesOf {entries : Entries} {name : String} {v : Yaml.Value} :
    v ∈ entries.valuesOf name ↔
      ∃ key, (key, v) ∈ entries ∧ key.spells name = true ∧ v.isNull = false := by
  simp [valuesOf]

theorem valuesOf_cons (key v : Yaml.Value) (rest : Entries) (name : String) :
    valuesOf ((key, v) :: rest) name =
      if key.spells name && !v.isNull then v :: valuesOf rest name else valuesOf rest name := by
  rw [valuesOf, List.filter_cons]
  split <;> rfl

/-- The value of a field is the first one. -/
theorem valueOf?_eq_head? (entries : Entries) (name : String) :
    entries.valueOf? name = (entries.valuesOf name).head? := by
  rw [valuesOf, List.head?_map, List.head?_filter, valueOf?]
  congr 2
  funext ⟨key, v⟩
  cases key <;> rfl

/-- If a name has no value, neither has one that is the same up to case. -/
theorem valuesOf_eq_nil {entries : Entries} {k name : String} (hnone : entries.valueOf? k = none)
    (h : Text.SameLetters k name) : entries.valuesOf name = [] := by
  rw [valueOf?_eq_head?, List.head?_eq_none_iff] at hnone
  refine List.eq_nil_iff_forall_not_mem.mpr fun v hv => ?_
  obtain ⟨key, hmem, hspells, hvalue⟩ := mem_valuesOf.mp hv
  have hkey : key.spells k = true := by
    cases key with
    | str l => exact decide_eq_true ((of_decide_eq_true hspells).trans h.symm)
    | null | bool _ | int _ | float _ | seq _ | map _ | tagged _ _ => cases hspells
  exact List.not_mem_nil (hnone ▸ mem_valuesOf.mpr ⟨key, hmem, hkey, hvalue⟩)

/-- No two keys with values are the same up to case, neither here nor in the mappings inside. -/
inductive SpellOnce : Entries → Prop where
  | intro {entries : Entries}
    (distinct : entries.Pairwise fun one other => ∀ k l, one.1 = .str k → other.1 = .str l →
      one.2.isNull = false → other.2.isNull = false → ¬ Text.SameLetters k l)
    (nested : ∀ key inner, (key, .map inner) ∈ entries → SpellOnce inner) :
    SpellOnce entries

/-- Each declared name has at most one value, and so in the records. -/
inductive IsClear : Schema → Entries → Prop where
  | intro {schema : Schema} {entries : Entries}
    (single : ∀ field ∈ schema, (entries.valuesOf field.name).length ≤ 1)
    (nested : ∀ field ∈ schema, ∀ fields, field.kind = .record fields →
      ∀ inner, .map inner ∈ entries.valuesOf field.name → IsClear fields inner) :
    IsClear schema entries

end Entries

/-- A mapping and the same mapping in another spelling, for the fields that read it. -/
inductive Respells : Schema → Entries → Entries → Prop where
  | refl {schema : Schema} (entries : Entries) : Respells schema entries entries
  | symm {schema : Schema} {e e' : Entries} : Respells schema e e' → Respells schema e' e
  | trans {schema : Schema} {e₁ e₂ e₃ : Entries} :
    Respells schema e₁ e₂ → Respells schema e₂ e₃ → Respells schema e₁ e₃
  /-- The entries are in another order. -/
  | reorder {schema : Schema} {e e' : Entries} : e.Perm e' → Respells schema e e'
  /-- A key is written in other case. -/
  | recase {schema : Schema} {k l : String} {v : Yaml.Value} {rest : Entries} :
    Text.SameLetters k l → Respells schema ((.str k, v) :: rest) ((.str l, v) :: rest)
  /-- A key that spells no field is left out. -/
  | undeclared {schema : Schema} {key v : Yaml.Value} {rest : Entries} :
    (∀ field ∈ schema, key.spells field.name = false) → Respells schema ((key, v) :: rest) rest
  /-- A key without a value is left out. -/
  | null {schema : Schema} {key v : Yaml.Value} {rest : Entries} :
    v.isNull = true → Respells schema ((key, v) :: rest) rest
  /-- An empty mapping is left out for records that may be absent and have no default. -/
  | empty {schema : Schema} {k : String} {rest : Entries} :
    Entries.valueOf? rest k = none →
    (∀ field ∈ schema, Text.SameLetters k field.name →
      field.presence = .optional ∧ ∃ fields, field.kind = .record fields) →
    Respells schema ((.str k, .map []) :: rest) rest
  /-- The mapping under a key is respelled, for all records that read it. -/
  | inside {schema : Schema} {key : Yaml.Value} {inner inner' rest : Entries} :
    (∀ field ∈ schema, key.spells field.name = true →
      ∀ fields, field.kind = .record fields → Respells fields inner inner') →
    Respells schema ((key, .map inner) :: rest) ((key, .map inner') :: rest)

namespace Entries

/-- A name has at most one value if keys are written once. -/
theorem SpellOnce.length_valuesOf_le {entries : Entries} (h : entries.SpellOnce) (name : String) :
    (entries.valuesOf name).length ≤ 1 := by
  obtain ⟨hdistinct, -⟩ := h
  induction entries with
  | nil => exact Nat.zero_le 1
  | cons entry rest ih =>
    obtain ⟨key, v⟩ := entry
    obtain ⟨hentry, hrest⟩ := List.pairwise_cons.mp hdistinct
    rw [valuesOf_cons]
    cases key with
    | str k =>
      split
      · next hkey =>
        obtain ⟨hk, hv⟩ := (Bool.and_eq_true _ _).mp hkey
        -- another value would stand under a key that is the same up to case
        have hnone : valuesOf rest name = [] := by
          refine List.eq_nil_iff_forall_not_mem.mpr fun w hw => ?_
          obtain ⟨other, hmem, hother, hwvalue⟩ := mem_valuesOf.mp hw
          cases other with
          | str l =>
            exact hentry _ hmem k l rfl rfl (Bool.not_eq_true' _ |>.mp hv) hwvalue
              ((of_decide_eq_true hk).trans (of_decide_eq_true hother).symm)
          | null | bool _ | int _ | float _ | seq _ | map _ | tagged _ _ => cases hother
        rw [hnone]
        exact Nat.le_refl 1
      · exact ih hrest
    | null | bool _ | int _ | float _ | seq _ | map _ | tagged _ _ => exact ih hrest

/-- If keys are written once, it is clear what the fields of any schema read. -/
theorem SpellOnce.isClear {entries : Entries} (h : entries.SpellOnce) (schema : Schema) :
    IsClear schema entries := by
  induction h generalizing schema with
  | @intro entries hdistinct hnested ih =>
    refine .intro (fun field _ => (SpellOnce.intro hdistinct hnested).length_valuesOf_le _) ?_
    intro field _ fields _ inner hinner
    obtain ⟨key, hmem, -⟩ := mem_valuesOf.mp hinner
    exact ih key inner hmem fields

end Entries

/-- What a field reads is clear if it has at most one value, and a mapping is clear for its
fields. -/
structure Field.IsClear (field : Field) (entries : Entries) : Prop where
  single : (entries.valuesOf field.name).length ≤ 1
  nested : ∀ fields, field.kind = .record fields →
    ∀ inner, .map inner ∈ entries.valuesOf field.name → Entries.IsClear fields inner

theorem Entries.isClear_iff {schema : Schema} {entries : Entries} :
    Entries.IsClear schema entries ↔ ∀ field ∈ schema, field.IsClear entries := by
  constructor
  · rintro ⟨hsingle, hnested⟩ field hfield
    exact ⟨hsingle field hfield, hnested field hfield⟩
  · intro h
    exact .intro (fun field hfield => (h field hfield).single)
      (fun field hfield => (h field hfield).nested)

/-- A field reads the same in two mappings, as far as it is clear what it reads. -/
structure Field.ReadsAlike (field : Field) (e e' : Entries) : Prop where
  clear : field.IsClear e ↔ field.IsClear e'
  walk : field.IsClear e → ∀ parent, walkField e parent field = walkField e' parent field

/-- The fields of a schema read the same in two mappings. -/
structure Schema.ReadsAlike (schema : Schema) (e e' : Entries) : Prop where
  clear : Entries.IsClear schema e ↔ Entries.IsClear schema e'
  walk : Entries.IsClear schema e →
    ∀ parent done, walkFields e parent schema done = walkFields e' parent schema done

/-- Only the first value of a field is walked. -/
theorem walkField_congr {e e' : Entries} {field : Field}
    (h : e.valueOf? field.name = e'.valueOf? field.name) (parent : FieldPath) :
    walkField e parent field = walkField e' parent field := by
  obtain ⟨name, kind, presence⟩ := field
  have hname : e.valueOf? name = e'.valueOf? name := h
  simp only [walkField, lookup?_eq_valueOf?, hname]

/-- Walks over fields are the same if all walks over one field are. -/
theorem walkFields_congr {e e' : Entries} {parent : FieldPath} {fields : List Field}
    (h : ∀ field ∈ fields, walkField e parent field = walkField e' parent field)
    (done : List (String × Param)) :
    walkFields e parent fields done = walkFields e' parent fields done := by
  induction fields generalizing done with
  | nil => rfl
  | cons first rest ih =>
    obtain ⟨hfirst, hrest⟩ := List.forall_mem_cons.mp h
    simp only [walkFields, hfirst, ih hrest]

namespace Schema.ReadsAlike

variable {schema : Schema} {e e' e'' : Entries}

theorem symm (h : schema.ReadsAlike e e') : schema.ReadsAlike e' e where
  clear := h.clear.symm
  walk hclear parent done := (h.walk (h.clear.mpr hclear) parent done).symm

theorem trans (h : schema.ReadsAlike e e') (h' : schema.ReadsAlike e' e'') :
    schema.ReadsAlike e e'' where
  clear := h.clear.trans h'.clear
  walk hclear parent done :=
    (h.walk hclear parent done).trans (h'.walk (h.clear.mp hclear) parent done)

theorem of_fields (h : ∀ field ∈ schema, field.ReadsAlike e e') : schema.ReadsAlike e e' where
  clear := by
    rw [Entries.isClear_iff, Entries.isClear_iff]
    exact forall₂_congr fun field hfield => (h field hfield).clear
  walk hclear parent done :=
    walkFields_congr (fun field hfield =>
      (h field hfield).walk (Entries.isClear_iff.mp hclear field hfield) parent) done

end Schema.ReadsAlike

/-- Lists of at most one item are not changed by reordering. -/
theorem eq_of_perm_of_length_le_one {α : Type} {l l' : List α} (h : l.Perm l')
    (hone : l.length ≤ 1) : l = l' := by
  match l with
  | [] => exact h.nil_eq
  | [_] => exact (List.singleton_perm.mp h)
  | _ :: _ :: _ => simp at hone

/-- What is clear does not depend on the order of the values. -/
theorem Field.IsClear.of_perm {field : Field} {e e' : Entries} (hclear : field.IsClear e)
    (h : (e.valuesOf field.name).Perm (e'.valuesOf field.name)) : field.IsClear e' where
  single := h.length_eq ▸ hclear.single
  nested fields hkind inner hinner := hclear.nested fields hkind inner (h.mem_iff.mpr hinner)

/-- A mapping may take the place of another one that is clear just as well. -/
theorem Field.IsClear.of_inside {field : Field} {e e' inner inner' : Entries}
    {others : List Yaml.Value} (hclear : field.IsClear e)
    (hvalues : e.valuesOf field.name = .map inner :: others)
    (hvalues' : e'.valuesOf field.name = .map inner' :: others)
    (h : ∀ fields, field.kind = .record fields →
      Entries.IsClear fields inner → Entries.IsClear fields inner') : field.IsClear e' where
  single := by
    have hsingle := hclear.single
    rw [hvalues] at hsingle
    rw [hvalues']
    exact hsingle
  nested fields hkind other hother := by
    have hnested := hclear.nested fields hkind
    rw [hvalues] at hnested
    rw [hvalues'] at hother
    rcases List.mem_cons.mp hother with hsame | hother
    · cases hsame
      exact h fields hkind (hnested inner List.mem_cons_self)
    · exact hnested other (List.mem_cons_of_mem _ hother)

namespace Field.ReadsAlike

variable {field : Field} {e e' : Entries}

/-- The order of the values of a field does not matter, as there is one at most. -/
theorem of_perm (h : (e.valuesOf field.name).Perm (e'.valuesOf field.name)) :
    field.ReadsAlike e e' where
  clear := ⟨fun hclear => hclear.of_perm h, fun hclear => hclear.of_perm h.symm⟩
  walk hclear parent := by
    have hvalues : e.valuesOf field.name = e'.valuesOf field.name :=
      eq_of_perm_of_length_le_one h hclear.single
    refine walkField_congr ?_ parent
    rw [Entries.valueOf?_eq_head?, Entries.valueOf?_eq_head?, hvalues]

/-- A field with the same values reads the same. -/
theorem of_eq (h : e.valuesOf field.name = e'.valuesOf field.name) : field.ReadsAlike e e' :=
  of_perm (.of_eq h)

/-- An empty mapping is read like an absent record. -/
theorem of_empty {fields : List Field} (hpresence : field.presence = .optional)
    (hkind : field.kind = .record fields) (hsome : e.valuesOf field.name = [.map []])
    (hnone : e'.valuesOf field.name = []) : field.ReadsAlike e e' where
  clear := by
    have hempty : Entries.IsClear fields [] :=
      .intro (fun _ _ => Nat.zero_le 1) (fun _ _ _ _ _ hinner => nomatch hinner)
    refine iff_of_true ⟨?_, ?_⟩ ⟨?_, ?_⟩
    · exact hsome ▸ Nat.le_refl 1
    · intro fields' hkind' inner hinner
      rw [hsome, List.mem_singleton] at hinner
      cases hinner
      cases hkind.symm.trans hkind'
      exact hempty
    · exact hnone ▸ Nat.zero_le 1
    · intro fields' hkind' inner hinner
      rw [hnone] at hinner
      cases hinner
  walk _ parent := by
    obtain ⟨name, kind, presence⟩ := field
    cases hpresence
    cases hkind
    have hmap : e.valueOf? name = some (.map []) :=
      (e.valueOf?_eq_head? name).trans (congrArg List.head? hsome)
    have habsent : e'.valueOf? name = none :=
      (e'.valueOf?_eq_head? name).trans (congrArg List.head? hnone)
    rw [walkField_of_value hmap, walkField_of_optional habsent]
    rfl

/-- A record reads mappings alike if its fields do; other fields do not look into them. -/
theorem of_inside {inner inner' : Entries} {others : List Yaml.Value}
    (hvalues : e.valuesOf field.name = .map inner :: others)
    (hvalues' : e'.valuesOf field.name = .map inner' :: others)
    (h : ∀ fields, field.kind = .record fields → Schema.ReadsAlike fields inner inner') :
    field.ReadsAlike e e' where
  clear := by
    constructor <;> intro hclear
    · exact hclear.of_inside hvalues hvalues' fun fields hkind => (h fields hkind).clear.mp
    · exact hclear.of_inside hvalues' hvalues fun fields hkind => (h fields hkind).clear.mpr
  walk hclear parent := by
    obtain ⟨name, kind, presence⟩ := field
    have hfirst : e.valueOf? name = some (.map inner) :=
      (e.valueOf?_eq_head? name).trans (congrArg List.head? hvalues)
    have hfirst' : e'.valueOf? name = some (.map inner') :=
      (e'.valueOf?_eq_head? name).trans (congrArg List.head? hvalues')
    rw [walkField_of_value hfirst, walkField_of_value hfirst']
    cases kind with
    | record fields =>
      have hinner : Entries.IsClear fields inner :=
        hclear.nested fields rfl inner (hvalues ▸ List.mem_cons_self)
      simp only [walkValue, (h fields rfl).walk hinner]
    | text | int | flag | texts => rfl

end Field.ReadsAlike

/-- All respellings are read alike. -/
theorem Respells.readsAlike {schema : Schema} {e e' : Entries} (h : Respells schema e e') :
    schema.ReadsAlike e e' := by
  -- along a chain of moves clearness goes from one end to the other, so one end
  -- has to be clear only
  induction h with
  | refl entries => exact .of_fields fun _ _ => .of_eq rfl
  | symm _ ih => exact ih.symm
  | trans _ _ ih ih' => exact ih.trans ih'
  | reorder hperm => exact .of_fields fun _ _ => .of_perm ((hperm.filter _).map _)
  | recase hkeys =>
    refine .of_fields fun field _ => .of_eq ?_
    rw [Entries.valuesOf_cons, Entries.valuesOf_cons, Yaml.Value.spells_congr hkeys]
  | undeclared hkey =>
    refine .of_fields fun field hfield => .of_eq ?_
    rw [Entries.valuesOf_cons, hkey field hfield, Bool.false_and, if_neg Bool.false_ne_true]
  | null hv =>
    refine .of_fields fun field _ => .of_eq ?_
    rw [Entries.valuesOf_cons, hv, Bool.not_true, Bool.and_false, if_neg Bool.false_ne_true]
  | @empty schema k rest hnone hfields =>
    refine .of_fields fun field hfield => ?_
    by_cases hkey : Text.SameLetters k field.name
    · obtain ⟨hpresence, fields, hkind⟩ := hfields field hfield hkey
      have hrest : Entries.valuesOf rest field.name = [] := Entries.valuesOf_eq_nil hnone hkey
      refine .of_empty hpresence hkind ?_ hrest
      rw [Entries.valuesOf_cons, hrest]
      exact if_pos (by simp [Yaml.Value.spells, hkey, Yaml.Value.isNull])
    · refine .of_eq ?_
      rw [Entries.valuesOf_cons]
      exact if_neg (by simp [Yaml.Value.spells, hkey])
  | @inside schema key inner inner' rest _ ih =>
    refine .of_fields fun field hfield => ?_
    cases hkey : key.spells field.name with
    | true =>
      have hcons : ∀ inner, Entries.valuesOf ((key, .map inner) :: rest) field.name =
          .map inner :: Entries.valuesOf rest field.name := fun inner => by
        rw [Entries.valuesOf_cons, hkey]
        rfl
      exact .of_inside (hcons inner) (hcons inner') (ih field hfield hkey)
    | false =>
      refine .of_eq ?_
      rw [Entries.valuesOf_cons, Entries.valuesOf_cons, hkey]
      rfl

/-- Decoding gives the same for a mapping and all its respellings, params as well as errors, if no
two keys with values are the same up to case. -/
theorem decode_eq_of_respells (schema : Schema) (e e' : Entries) (honce : e.SpellOnce)
    (h : Respells schema e e') : decode schema (.map e) = decode schema (.map e') := by
  have hwalk := h.readsAlike.walk (honce.isClear schema) [] []
  simp only [decode, decodeEntries, hwalk]

/-- A schema for a record with another record in it. -/
def linkSchema : Schema :=
  [⟨"Hosts", .texts, .required⟩, ⟨"Tls", .record [⟨"Port", .int, .optional⟩], .optional⟩]

/-- Entries for it, and the same in another spelling. -/
def linkEntries : Entries := [(.str "Hosts", .seq [.str "a"])]

def linkEntries' : Entries :=
  [(.str "tls", .map []), (.str "Hosts", .null), (.str "hosts", .seq [.str "a"])]

theorem respells_link : Respells linkSchema linkEntries linkEntries' := by
  have hcase : Respells linkSchema linkEntries [(.str "hosts", .seq [.str "a"])] :=
    .recase (by simp [Text.sameLetters_iff])
  have hnull : Respells linkSchema [(.str "Hosts", .null), (.str "hosts", .seq [.str "a"])]
      [(.str "hosts", .seq [.str "a"])] := .null rfl
  have hempty : Respells linkSchema linkEntries'
      [(.str "Hosts", .null), (.str "hosts", .seq [.str "a"])] := by
    refine .empty ?_ ?_
    · simp [Entries.valueOf?, Text.sameLetters_iff, Yaml.Value.isNull]
    · simp [linkSchema, Field.name, Field.presence, Field.kind, Text.sameLetters_iff]
  exact hcase.trans (hnull.symm.trans hempty.symm)

/-- Reordered entries with a respelled record and a key that is no text. -/
theorem decode_eq_of_respells_link :
    let schema : Schema := [⟨"Link", .record linkSchema, .required⟩, ⟨"Limit", .int, .optional⟩]
    let plain : Entries := [(.str "Link", .map linkEntries), (.str "Limit", .int 3)]
    let other : Entries :=
      [(.int 7, .bool true), (.str "LIMIT", .int 3), (.str "link", .map linkEntries')]
    plain.SpellOnce ∧ Respells schema plain other ∧
      decode schema (.map plain) = decode schema (.map other) := by
  intro schema plain other
  have honce : plain.SpellOnce := by
    refine .intro (by simp [plain, Text.sameLetters_iff]) ?_
    rintro key inner hinner
    obtain ⟨-, rfl⟩ : key = .str "Link" ∧ inner = linkEntries := by simpa [plain] using hinner
    exact .intro (List.pairwise_singleton _ _) (by simp [linkEntries])
  have hinside : Respells schema plain
      [(.str "Link", .map linkEntries'), (.str "Limit", .int 3)] := by
    refine .inside ?_
    simp [schema, Field.name, Field.kind, Yaml.Value.spells, Text.sameLetters_iff, respells_link]
  have hcase : Respells schema [(.str "Link", .map linkEntries'), (.str "Limit", .int 3)]
      [(.str "link", .map linkEntries'), (.str "Limit", .int 3)] :=
    .recase (by simp [Text.sameLetters_iff])
  have horder : Respells schema [(.str "link", .map linkEntries'), (.str "Limit", .int 3)]
      [(.str "Limit", .int 3), (.str "link", .map linkEntries')] := .reorder (.swap _ _ [])
  have hcase' : Respells schema [(.str "Limit", .int 3), (.str "link", .map linkEntries')]
      [(.str "LIMIT", .int 3), (.str "link", .map linkEntries')] :=
    .recase (by simp [Text.sameLetters_iff])
  have hother : Respells schema other [(.str "LIMIT", .int 3), (.str "link", .map linkEntries')] :=
    .undeclared fun _ _ => rfl
  have hrespells : Respells schema plain other :=
    hinside.trans (hcase.trans (horder.trans (hcase'.trans hother.symm)))
  exact ⟨honce, hrespells, decode_eq_of_respells schema plain other honce hrespells⟩

/-- Two names that are the same up to case, one of a record. -/
def twinSchema : Schema := [⟨"A", .int, .optional⟩, ⟨"a", .record [], .optional⟩]

/-- An empty mapping for the absent record `a` is read by the field `A` as well, which it does not
suit. -/
theorem decode_ne_of_empty_twin :
    let params : Params := ⟨[("a", .record [])], List.pairwise_singleton _ _⟩
    ⟨"a", .record [], .optional⟩ ∈ twinSchema ∧ Entries.SpellOnce [] ∧
      Entries.SpellOnce [(.str "a", .map [])] ∧ Entries.valueOf? [] "a" = none ∧
      decode twinSchema (.map []) = .ok params ∧
      decode twinSchema (.map [(.str "a", .map [])]) =
        .error (.type [.field ["A"] none "int" .map]) := by
  intro params
  have hnil : Entries.SpellOnce [] := .intro .nil nofun
  have hone : Entries.SpellOnce [(.str "a", .map [])] := by
    refine .intro (List.pairwise_singleton _ _) ?_
    simp [hnil]
  have hvalue : Entries.valueOf? [(.str "a", .map [])] "A" = some (.map []) ∧
      Entries.valueOf? [(.str "a", .map [])] "a" = some (.map []) := by
    simp [Entries.valueOf?, Text.sameLetters_iff, Yaml.Value.isNull]
  have hwalk : (walkFields [(.str "a", .map [])] [] twinSchema []).errors =
      [.field ["A"] none "int" .map] := by
    rw [twinSchema, walkFields, walkField_of_value hvalue.1, walkFields,
      walkField_of_value hvalue.2]
    rfl
  refine ⟨by simp [twinSchema], hnil, hone, rfl, rfl, ?_⟩
  rw [decode, decodeEntries, hwalk]
  rfl

end ServiceControl
