import ServiceControl.Proofs.Params.Reporting

/-!
# Decoded params conform to their schema

What comes out of a decoding that succeeds is described field by field, without the walk: which
names there are, of which kind the values are, and where each value comes from, the entries, a
default or an absent record. A walk that gathers no error and misses nothing has no other outcome:
neither the nothing that a value of the wrong type leaves, nor a list that has lost items, nor a
record that was made up for a required one.
-/

namespace ServiceControl

/-- Whether a value is of a kind, the fields of records aside. -/
def FieldKind.describes : FieldKind → Param → Bool
  | .text, .text _ => true
  | .int, .int i => -2 ^ 63 ≤ i && i < 2 ^ 63
  | .flag, .flag _ => true
  | .texts, .texts _ => true
  | .record _, .record _ => true
  | _, _ => false

/-- The names of one level are distinct, and defaults are of the kinds of their fields. -/
inductive Schema.IsProper : Schema → Prop where
  | intro {schema : Schema} (names : (schema.map Field.name).Nodup)
    (defaults : ∀ field ∈ schema, ∀ v, field.presence = .default v → field.kind.describes v = true)
    (nested : ∀ field ∈ schema, ∀ fields, field.kind = .record fields → IsProper fields) :
    IsProper schema

/-- Whether a field has a value after decoding: if the entries have one, if it has a default, and if
it is a record. -/
def Field.IsFilled (field : Field) (entries : Entries) : Prop :=
  entries.valueOf? field.name ≠ none ∨ (∃ v, field.presence = .default v) ∨
    ∃ fields, field.kind = .record fields

mutual

/-- Decoded fields are those that a schema declares, with the values that entries give them. -/
inductive Conforms : Schema → Entries → List (String × Param) → Prop where
  | intro {schema : Schema} {entries : Entries} {record : List (String × Param)}
    (sorted : SortedKeys record)
    (keys : ∀ name, name ∈ record.map Prod.fst ↔
      ∃ field ∈ schema, field.name = name ∧ field.IsFilled entries)
    (required : ∀ field ∈ schema, field.presence = .required →
      entries.valueOf? field.name ≠ none)
    (kinds : ∀ field ∈ schema, ∀ p, (field.name, p) ∈ record → field.kind.describes p = true)
    (values : ∀ field ∈ schema, ∀ p, (field.name, p) ∈ record → Gives entries field p) :
    Conforms schema entries record

/-- Where the value of a field comes from. -/
inductive Gives : Entries → Field → Param → Prop where
  | text {entries : Entries} {name s : String} {presence : Presence} :
    entries.valueOf? name = some (.str s) → Gives entries ⟨name, .text, presence⟩ (.text s)
  | int {entries : Entries} {name : String} {i : Int} {presence : Presence} :
    entries.valueOf? name = some (.int i) → Gives entries ⟨name, .int, presence⟩ (.int i)
  | flag {entries : Entries} {name : String} {b : Bool} {presence : Presence} :
    entries.valueOf? name = some (.bool b) → Gives entries ⟨name, .flag, presence⟩ (.flag b)
  | texts {entries : Entries} {name : String} {items : List String} {presence : Presence} :
    entries.valueOf? name = some (.seq (items.map .str)) →
    Gives entries ⟨name, .texts, presence⟩ (.texts items)
  /-- The fields of a record conform to the entries of the mapping. -/
  | record {entries inner : Entries} {name : String} {fields : List Field} {presence : Presence}
    {values : List (String × Param)} :
    entries.valueOf? name = some (.map inner) → Conforms fields inner values →
    Gives entries ⟨name, .record fields, presence⟩ (.record values)
  /-- An absent field has its default as it is. -/
  | default {entries : Entries} {name : String} {kind : FieldKind} {v : Param} :
    entries.valueOf? name = none → Gives entries ⟨name, kind, .default v⟩ v
  /-- An absent record without a default is what an empty mapping gives. -/
  | absent {entries : Entries} {name : String} {fields : List Field}
    {values : List (String × Param)} :
    entries.valueOf? name = none → Conforms fields [] values →
    Gives entries ⟨name, .record fields, .optional⟩ (.record values)

end

/-- A walk has found nothing wrong. -/
structure Walked.IsClean {α : Type} (w : Walked α) : Prop where
  errors : w.errors = []
  missing : w.missing = []

/-- If a walk over fields finds nothing wrong, none of the walks over one field does. -/
theorem isClean_walkField_of_mem {entries : Entries} {parent : FieldPath} {fields : List Field}
    {done : List (String × Param)} (h : (walkFields entries parent fields done).IsClean) :
    ∀ field ∈ fields, (walkField entries parent field).IsClean := by
  induction fields generalizing done with
  | nil => nofun
  | cons first rest ih =>
    obtain ⟨herrors, hmissing⟩ := h
    rw [walkFields, List.append_eq_nil_iff] at herrors hmissing
    intro field hfield
    rcases List.mem_cons.mp hfield with rfl | hfield
    · exact ⟨herrors.1, hmissing.1⟩
    · exact ih ⟨herrors.2, hmissing.2⟩ field hfield

/-- A name that no field has is not touched. -/
theorem lookUp?_walkFields_of_notMem {entries : Entries} {parent : FieldPath} {fields : List Field}
    {name : String} (h : name ∉ fields.map Field.name) (done : List (String × Param)) :
    SortedMap.lookUp? name (walkFields entries parent fields done).value =
      SortedMap.lookUp? name done := by
  induction fields generalizing done with
  | nil => rfl
  | cons first rest ih =>
    rw [List.map_cons, List.mem_cons, not_or] at h
    obtain ⟨hfirst, hrest⟩ := h
    rw [walkFields, ih hrest]
    cases (walkField entries parent first).value with
    | none => rfl
    | some v => exact (SortedMap.lookUp?_insertEntry _ _ _ _).trans (if_neg (Ne.symm hfirst))

/-- Under distinct names, the name of a field has the value of the field. -/
theorem lookUp?_walkFields_of_mem {entries : Entries} {parent : FieldPath} {fields : List Field}
    (h : (fields.map Field.name).Nodup) {field : Field} (hfield : field ∈ fields)
    {done : List (String × Param)} (hdone : SortedMap.lookUp? field.name done = none) :
    SortedMap.lookUp? field.name (walkFields entries parent fields done).value =
      (walkField entries parent field).value := by
  induction fields generalizing done with
  | nil => cases hfield
  | cons first rest ih =>
    obtain ⟨hfirst, hrest⟩ := List.nodup_cons.mp h
    rw [walkFields]
    rcases List.mem_cons.mp hfield with rfl | hfield
    · rw [lookUp?_walkFields_of_notMem hfirst]
      cases (walkField entries parent field).value with
      | none => exact hdone
      | some v => exact (SortedMap.lookUp?_insertEntry _ _ _ _).trans (if_pos rfl)
    · refine ih hrest hfield ?_
      have hne : first.name ≠ field.name := fun he =>
        hfirst (he ▸ List.mem_map_of_mem hfield)
      cases (walkField entries parent first).value with
      | none => exact hdone
      | some v => exact ((SortedMap.lookUp?_insertEntry _ _ _ _).trans (if_neg hne)).trans hdone

/-- A list without items that are no texts is the list of its texts. -/
theorem eq_map_of_walkTexts {path : FieldPath} {items : List Yaml.Value} {index : Nat}
    (h : (walkTexts path index items).errors = []) :
    items = (walkTexts path index items).value.map .str := by
  induction items generalizing index with
  | nil => rfl
  | cons item rest ih =>
    cases item with
    | str s =>
      rw [walkTexts] at h
      rw [walkTexts, List.map_cons, ← ih h]
    | null | bool _ | int _ | float _ | seq _ | map _ | tagged _ _ => simp [walkTexts] at h

/-- What a walk makes of a field. -/
structure Fills (entries : Entries) (field : Field) (value? : Option Param) : Prop where
  filled : value? ≠ none ↔ field.IsFilled entries
  required : field.presence = .required → entries.valueOf? field.name ≠ none
  kind : ∀ p, value? = some p → field.kind.describes p = true
  gives : ∀ p, value? = some p → Gives entries field p

/-- A field that the entries have a value for. -/
theorem Fills.of_value {entries : Entries} {field : Field} {v : Yaml.Value} {p : Param}
    (hvalue : entries.valueOf? field.name = some v) (hkind : field.kind.describes p = true)
    (hgives : Gives entries field p) : Fills entries field (some p) := by
  have hsome : entries.valueOf? field.name ≠ none := hvalue ▸ Option.some_ne_none v
  refine ⟨?_, fun _ => hsome, ?_, ?_⟩
  · exact iff_of_true (Option.some_ne_none p) (.inl hsome)
  · rintro _ ⟨⟩
    exact hkind
  · rintro _ ⟨⟩
    exact hgives

/-- An absent field has its default. -/
theorem Fills.of_default {entries : Entries} {name : String} {kind : FieldKind} {v : Param}
    (hvalue : entries.valueOf? name = none) (hkind : kind.describes v = true) :
    Fills entries ⟨name, kind, .default v⟩ (some v) := by
  refine ⟨?_, nofun, ?_, ?_⟩
  · exact iff_of_true (Option.some_ne_none v) (.inr (.inl ⟨v, rfl⟩))
  · rintro _ ⟨⟩
    exact hkind
  · rintro _ ⟨⟩
    exact .default hvalue

/-- An absent record without a default is taken for empty. -/
theorem Fills.of_absent {entries : Entries} {name : String} {fields : List Field}
    {values : List (String × Param)} (hvalue : entries.valueOf? name = none)
    (hvalues : Conforms fields [] values) :
    Fills entries ⟨name, .record fields, .optional⟩ (some (.record values)) := by
  refine ⟨?_, nofun, ?_, ?_⟩
  · exact iff_of_true (Option.some_ne_none _) (.inr (.inr ⟨fields, rfl⟩))
  · rintro _ ⟨⟩
    rfl
  · rintro _ ⟨⟩
    exact .absent hvalue hvalues

/-- Any other field that is absent has no value. -/
theorem Fills.of_nothing {entries : Entries} {name : String} {kind : FieldKind}
    (hvalue : entries.valueOf? name = none) (hkind : ∀ fields, kind ≠ .record fields) :
    Fills entries ⟨name, kind, .optional⟩ none := by
  refine ⟨?_, nofun, nofun, nofun⟩
  refine iff_of_false (fun h => h rfl) ?_
  rintro (hsome | ⟨v, hdefault⟩ | ⟨fields, hrecord⟩)
  · exact hsome hvalue
  · cases hdefault
  · exact hkind fields hrecord

/-- The fields that walks make of a schema conform to it. -/
theorem conforms_of_fills {entries : Entries} {parent : FieldPath} {fields : List Field}
    (hnames : (fields.map Field.name).Nodup)
    (h : ∀ field ∈ fields, Fills entries field (walkField entries parent field).value) :
    Conforms fields entries (walkFields entries parent fields []).value := by
  have hsorted : SortedKeys (walkFields entries parent fields []).value :=
    sortedKeys_walkFields List.Pairwise.nil
  let params : Params := ⟨_, hsorted⟩
  have hfind : ∀ field ∈ fields,
      params.find? field.name = (walkField entries parent field).value := fun field hfield =>
    lookUp?_walkFields_of_mem hnames hfield rfl
  have hvalue : ∀ field ∈ fields, ∀ p, (field.name, p) ∈ params.entries →
      (walkField entries parent field).value = some p := fun field hfield p hp =>
    (hfind field hfield).symm.trans (SortedMap.find?_of_mem hp)
  refine .intro hsorted ?_ (fun field hfield => (h field hfield).required)
    (fun field hfield p hp => (h field hfield).kind p (hvalue field hfield p hp))
    (fun field hfield p hp => (h field hfield).gives p (hvalue field hfield p hp))
  intro name
  constructor
  · intro hname
    obtain ⟨⟨name, p⟩, hp, rfl⟩ := List.mem_map.mp hname
    by_cases hdeclared : name ∈ fields.map Field.name
    · obtain ⟨field, hfield, rfl⟩ := List.mem_map.mp hdeclared
      refine ⟨field, hfield, rfl, (h field hfield).filled.mp ?_⟩
      rw [hvalue field hfield p hp]
      exact Option.some_ne_none p
    · have hnone : params.find? name = none := lookUp?_walkFields_of_notMem hdeclared []
      exact absurd (hnone.symm.trans (SortedMap.find?_of_mem hp)) (Option.some_ne_none p).symm
  · rintro ⟨field, hfield, rfl, hfilled⟩
    obtain ⟨p, hp⟩ := Option.ne_none_iff_exists'.mp ((h field hfield).filled.mpr hfilled)
    have hmem : (field.name, p) ∈ params.entries :=
      SortedMap.mem_entries_of_find? ((hfind field hfield).trans hp)
    exact List.mem_map.mpr ⟨_, hmem, rfl⟩

/-- A field whose default is of its kind, and the fields in it are proper. -/
structure Field.IsProper (field : Field) : Prop where
  default : ∀ v, field.presence = .default v → field.kind.describes v = true
  nested : ∀ fields, field.kind = .record fields → Schema.IsProper fields

/-- The fields of a proper schema are proper. -/
theorem Schema.IsProper.field {schema : Schema} (h : schema.IsProper) :
    ∀ field ∈ schema, field.IsProper := by
  obtain ⟨-, hdefaults, hnested⟩ := h
  exact fun field hfield => ⟨hdefaults field hfield, hnested field hfield⟩

theorem Schema.IsProper.nodup {schema : Schema} (h : schema.IsProper) :
    (schema.map Field.name).Nodup := by
  obtain ⟨hnames, -, -⟩ := h
  exact hnames

/-- An integer that is no error fits. -/
theorem fills_walkValue_int {entries : Entries} {path : FieldPath} {name : String}
    {v : Yaml.Value} {presence : Presence} (hvalue : entries.valueOf? name = some v)
    (hclean : (walkValue path v .int).IsClean) :
    Fills entries ⟨name, .int, presence⟩ (walkValue path v .int).value := by
  have herrors := hclean.errors
  cases v with
  | int i =>
    by_cases hi : -2 ^ 63 ≤ i ∧ i < 2 ^ 63
    · have hint : (walkValue path (.int i) .int).value = some (.int i) := by
        simp only [walkValue, if_pos hi]
      have hdescribes : FieldKind.int.describes (.int i) = true := by
        simpa only [FieldKind.describes, Bool.and_eq_true, decide_eq_true_eq] using hi
      rw [hint]
      exact .of_value hvalue hdescribes (.int hvalue)
    · simp only [walkValue, if_neg hi] at herrors
      cases herrors
  | null | bool _ | float _ | str _ | seq _ | map _ | tagged _ _ =>
    exact absurd herrors (List.cons_ne_nil _ [])

/-- A list without errors has lost no items. -/
theorem fills_walkValue_texts {entries : Entries} {path : FieldPath} {name : String}
    {v : Yaml.Value} {presence : Presence} (hvalue : entries.valueOf? name = some v)
    (hclean : (walkValue path v .texts).IsClean) :
    Fills entries ⟨name, .texts, presence⟩ (walkValue path v .texts).value := by
  have herrors := hclean.errors
  cases v with
  | seq items =>
    have hitems : items = (walkTexts path 0 items).value.map .str := eq_map_of_walkTexts herrors
    exact .of_value hvalue rfl (.texts (hitems ▸ hvalue))
  | null | bool _ | int _ | float _ | str _ | map _ | tagged _ _ =>
    exact absurd herrors (List.cons_ne_nil _ [])

mutual

/-- Clean walks over the fields of a proper schema fill them. -/
theorem fills_walkField_of_mem {entries : Entries} {parent : FieldPath} {fields : List Field}
    (hproper : ∀ field ∈ fields, field.IsProper)
    (hclean : ∀ field ∈ fields, (walkField entries parent field).IsClean) :
    ∀ field ∈ fields, Fills entries field (walkField entries parent field).value := by
  match fields with
  | [] => nofun
  | first :: rest =>
    have hfirst := fills_walkField (hproper first List.mem_cons_self)
      (hclean first List.mem_cons_self)
    have hrest := fills_walkField_of_mem (fun x hx => hproper x (List.mem_cons_of_mem first hx))
      (fun x hx => hclean x (List.mem_cons_of_mem first hx))
    exact List.forall_mem_cons.mpr ⟨hfirst, hrest⟩

/-- A clean walk over a field fills it. -/
theorem fills_walkField {entries : Entries} {parent : FieldPath} {field : Field}
    (hproper : field.IsProper) (hclean : (walkField entries parent field).IsClean) :
    Fills entries field (walkField entries parent field).value := by
  match field with
  | ⟨name, kind, presence⟩ =>
    cases hvalue : entries.valueOf? name with
    | some v =>
      rw [walkField_of_value hvalue] at hclean ⊢
      exact fills_walkValue hvalue hproper.nested hclean
    | none =>
      cases presence with
      | required =>
        have hmissing := hclean.missing
        simp [walkField, lookup?_eq_valueOf?, hvalue] at hmissing
      | default v =>
        rw [walkField_of_default hvalue]
        exact .of_default hvalue (hproper.default v rfl)
      | optional =>
        rw [walkField_of_optional hvalue] at hclean ⊢
        exact fills_walkAbsent hvalue hproper.nested hclean

/-- A clean walk over an absent field leaves it without a value, or is one over an empty record. -/
theorem fills_walkAbsent {entries : Entries} {path : FieldPath} {name : String} {kind : FieldKind}
    (hvalue : entries.valueOf? name = none)
    (hproper : ∀ fields, kind = .record fields → Schema.IsProper fields)
    (hclean : (walkAbsent path kind).IsClean) :
    Fills entries ⟨name, kind, .optional⟩ (walkAbsent path kind).value := by
  match kind with
  | .record fields =>
    have hfields : Schema.IsProper fields := hproper fields rfl
    have hinner : (walkFields [] path fields []).IsClean := ⟨hclean.errors, hclean.missing⟩
    exact .of_absent hvalue <| conforms_of_fills hfields.nodup <|
      fills_walkField_of_mem hfields.field (isClean_walkField_of_mem hinner)
  | .text | .int | .flag | .texts => exact .of_nothing hvalue nofun

/-- A clean walk over a value finds one of the declared kind. -/
theorem fills_walkValue {entries : Entries} {path : FieldPath} {name : String} {v : Yaml.Value}
    {kind : FieldKind} {presence : Presence} (hvalue : entries.valueOf? name = some v)
    (hproper : ∀ fields, kind = .record fields → Schema.IsProper fields)
    (hclean : (walkValue path v kind).IsClean) :
    Fills entries ⟨name, kind, presence⟩ (walkValue path v kind).value := by
  match kind with
  | .record fields =>
    have hfields : Schema.IsProper fields := hproper fields rfl
    cases v with
    | map inner =>
      have hinner : (walkFields inner path fields []).IsClean := ⟨hclean.errors, hclean.missing⟩
      refine .of_value hvalue rfl (.record hvalue ?_)
      exact conforms_of_fills hfields.nodup
        (fills_walkField_of_mem hfields.field (isClean_walkField_of_mem hinner))
    | null | bool _ | int _ | float _ | str _ | seq _ | tagged _ _ =>
      exact absurd hclean.errors (List.cons_ne_nil _ [])
  | .int => exact fills_walkValue_int hvalue hclean
  | .texts => exact fills_walkValue_texts hvalue hclean
  | .text =>
    cases v with
    | str s => exact .of_value hvalue rfl (.text hvalue)
    | null | bool _ | int _ | float _ | seq _ | map _ | tagged _ _ =>
      exact absurd hclean.errors (List.cons_ne_nil _ [])
  | .flag =>
    cases v with
    | bool b => exact .of_value hvalue rfl (.flag hvalue)
    | null | int _ | float _ | str _ | seq _ | map _ | tagged _ _ =>
      exact absurd hclean.errors (List.cons_ne_nil _ [])

end

/-- The entries of untyped params; null has none, and what is no mapping cannot be decoded. -/
def Yaml.Value.entries? : Yaml.Value → Option Entries
  | .null => some []
  | .map entries => some entries
  | _ => none

/-- A walk that finds nothing wrong gives the decoded fields. -/
theorem decodeEntries_eq_ok_iff {schema : Schema} {entries : Entries} {params : Params} :
    decodeEntries schema entries = .ok params ↔
      (walkFields entries [] schema []).IsClean ∧
        (walkFields entries [] schema []).value = params.entries := by
  simp only [decodeEntries]
  constructor
  · intro h
    split at h
    · cases h
    · next herrors =>
      split at h
      · cases h
      · next hmissing =>
        cases h
        exact ⟨⟨Decidable.not_not.mp herrors, Decidable.not_not.mp hmissing⟩, rfl⟩
  · rintro ⟨⟨herrors, hmissing⟩, hvalue⟩
    rw [if_neg (not_not_intro herrors), if_neg (not_not_intro hmissing)]
    exact congrArg Except.ok (SortedMap.ext hvalue)

/-- What a decoding of entries gives conforms. -/
theorem conforms_decodeEntries {schema : Schema} (hschema : schema.IsProper) {entries : Entries}
    {params : Params} (h : decodeEntries schema entries = .ok params) :
    Conforms schema entries params.entries := by
  obtain ⟨hclean, hvalue⟩ := decodeEntries_eq_ok_iff.mp h
  rw [← hvalue]
  exact conforms_of_fills hschema.nodup
    (fills_walkField_of_mem hschema.field (isClean_walkField_of_mem hclean))

/-- Decoded params conform to their schema: on every level they have the names of just the fields
that are present, have a default or are records, all values are of their kinds, no required field is
absent, and each value is the one of the document, the default or an empty record. -/
theorem decode_conforms (schema : Schema) (hschema : schema.IsProper) (v : Yaml.Value)
    (params : Params) (h : decode schema v = .ok params) :
    ∃ entries, v.entries? = some entries ∧ Conforms schema entries params.entries := by
  cases v with
  | null => exact ⟨[], rfl, conforms_decodeEntries hschema h⟩
  | map entries => exact ⟨entries, rfl, conforms_decodeEntries hschema h⟩
  | bool _ | int _ | float _ | str _ | seq _ | tagged _ _ => cases h

/-- The schema of a record of hosts. -/
def hostsSchema : Schema := [⟨"Hosts", .texts, .required⟩, ⟨"Deny", .flag, .default (.flag true)⟩]

/-- A schema with a record, and with one that is not what its own schema would give if it is
absent. -/
def netSchema : Schema :=
  [⟨"Net", .record hostsSchema, .required⟩, ⟨"Spare", .record hostsSchema, .default (.record [])⟩,
    ⟨"Limit", .int, .optional⟩]

/-- Hosts whose first key has no value. -/
def hostsEntries : Entries := [(.str "Hosts", .null), (.str "hosts", .seq [.str "a", .str "b"])]

/-- Entries with a key that is not declared. -/
def netEntries : Entries := [(.str "other", .int 1), (.str "NET", .map hostsEntries)]

/-- What the entries give. -/
def netParams : Params where
  entries := [("Net", .record [("Deny", .flag true), ("Hosts", .texts ["a", "b"])]),
    ("Spare", .record [])]
  sorted := by decide

theorem decode_net : decode netSchema (.map netEntries) = .ok netParams := by
  have hnet : Entries.valueOf? netEntries "Net" = some (.map hostsEntries) ∧
      Entries.valueOf? netEntries "Spare" = none ∧
      Entries.valueOf? netEntries "Limit" = none := by
    simp [Entries.valueOf?, netEntries, Text.sameLetters_iff, Yaml.Value.isNull]
  have hhosts : Entries.valueOf? hostsEntries "Hosts" = some (.seq [.str "a", .str "b"]) ∧
      Entries.valueOf? hostsEntries "Deny" = none := by
    simp [Entries.valueOf?, hostsEntries, Text.sameLetters_iff, Yaml.Value.isNull]
  have hinner : walkFields hostsEntries ["Net"] hostsSchema [] =
      ⟨[("Deny", .flag true), ("Hosts", .texts ["a", "b"])], [], []⟩ := by
    rw [hostsSchema, walkFields, walkField_of_value hhosts.1, walkFields,
      walkField_of_default hhosts.2]
    rfl
  have hwalk : walkFields netEntries [] netSchema [] = ⟨netParams.entries, [], []⟩ := by
    rw [netSchema, walkFields, walkField_of_value hnet.1, walkValue, List.nil_append, hinner,
      walkFields, walkField_of_default hnet.2.1, walkFields, walkField_of_optional hnet.2.2]
    rfl
  refine decodeEntries_eq_ok_iff.mpr ?_
  rw [hwalk]
  exact ⟨⟨rfl, rfl⟩, rfl⟩

theorem decode_conforms_net :
    netSchema.IsProper ∧ decode netSchema (.map netEntries) = .ok netParams ∧
      ∃ entries, Yaml.Value.entries? (.map netEntries) = some entries ∧
        Conforms netSchema entries netParams.entries := by
  have hhosts : hostsSchema.IsProper := by
    refine .intro (by decide) ?_ ?_ <;>
      simp [hostsSchema, Field.presence, Field.kind, FieldKind.describes]
  have hnet : netSchema.IsProper := by
    refine .intro (by decide) ?_ ?_
    · simp [netSchema, Field.presence, Field.kind, FieldKind.describes]
    · simp [netSchema, Field.kind, hhosts]
  exact ⟨hnet, decode_net, decode_conforms netSchema hnet (.map netEntries) netParams decode_net⟩

end ServiceControl
