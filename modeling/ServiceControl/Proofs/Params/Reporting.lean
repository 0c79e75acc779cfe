import ServiceControl.Proofs.Params.Places

/-!
# Decoding reports what is wrong, place by place

The walk over params gathers its errors along the way. What it has gathered in the end are the
errors of the places that the schema declares, each place once and in their order, and the same
holds of the required fields that are absent. So a decoding fails with all type errors, or without
any with all absences, and succeeds exactly if there is neither.
-/

namespace ServiceControl

/-- Looking up a name finds the value of the field. -/
theorem lookup?_eq_valueOf? (name : String) (entries : Entries) :
    lookup? name entries = entries.valueOf? name := by
  induction entries with
  | nil => rfl
  | cons entry rest ih =>
    obtain ⟨key, value⟩ := entry
    unfold Entries.valueOf? at ih ⊢
    cases key with
    | str k =>
      by_cases h : Text.SameLetters k name ∧ !value.isNull <;> simp_all [lookup?]
    | null | bool _ | int _ | float _ | seq _ | map _ | tagged _ _ => exact ih

section

variable {entries : Entries} {parent : FieldPath} {name : String} {kind : FieldKind}

/-- A value that the entries have is walked along the kind of the field. -/
theorem walkField_of_value {presence : Presence} {v : Yaml.Value}
    (h : entries.valueOf? name = some v) :
    walkField entries parent ⟨name, kind, presence⟩ = walkValue (parent ++ [name]) v kind := by
  simp only [walkField, lookup?_eq_valueOf?, h]

/-- A field that the entries do not have takes its default. -/
theorem walkField_of_default {v : Param} (h : entries.valueOf? name = none) :
    walkField entries parent ⟨name, kind, .default v⟩ = ⟨some v, [], []⟩ := by
  simp only [walkField, lookup?_eq_valueOf?, h]

/-- Without a default, an optional field is walked as an absent one. -/
theorem walkField_of_optional (h : entries.valueOf? name = none) :
    walkField entries parent ⟨name, kind, .optional⟩ = walkAbsent (parent ++ [name]) kind := by
  simp only [walkField, lookup?_eq_valueOf?, h, List.nil_append]

end

/-- The walk over a list finds the items that are no texts. -/
theorem errors_walkTexts (path : FieldPath) (index : Nat) (items : List Yaml.Value) :
    (walkTexts path index items).errors = (items.zipIdx index).filterMap fun (item, i) =>
      if FieldKind.text.admits item then none
      else some (.field path (some i) FieldKind.text.label (.ofValue item)) := by
  induction items generalizing index with
  | nil => rfl
  | cons item rest ih =>
    rw [List.zipIdx_cons, List.filterMap_cons, ← ih]
    cases item <;> rfl

/-- What a walk has gathered is what is wrong in some places. -/
structure Walked.Tells {α : Type} (w : Walked α) (places : List Place) : Prop where
  errors : w.errors = places.flatMap Place.errors
  missing : w.missing = places.filterMap Place.missing?

/-- The walk over a value finds what is wrong with it, and then what is wrong in it. -/
structure Walked.TellsValue (w : Walked (Option Param)) (own : List TypeError)
    (below : List Place) : Prop where
  errors : w.errors = own ++ below.flatMap Place.errors
  missing : w.missing = below.filterMap Place.missing?

/-- An integer is an error unless it fits. -/
theorem tells_walkValue_int (path : FieldPath) (v : Yaml.Value) :
    (walkValue path v .int).TellsValue (FieldKind.int.errors path v) [] := by
  cases v with
  | int i =>
    constructor <;> simp only [walkValue, FieldKind.errors, FieldKind.admits, Bool.and_eq_true,
      decide_eq_true_eq] <;> split <;> rfl
  | null | bool _ | float _ | str _ | seq _ | map _ | tagged _ _ =>
    constructor <;> simp [walkValue, FieldKind.errors, FieldKind.admits]

/-- A list tells its items that are no texts. -/
theorem tells_walkValue_texts (path : FieldPath) (v : Yaml.Value) :
    (walkValue path v .texts).TellsValue (FieldKind.texts.errors path v) [] := by
  cases v with
  | seq items =>
    constructor
    · simp [walkValue, FieldKind.errors, FieldKind.admits, itemErrors, errors_walkTexts]
    · simp [walkValue]
  | null | bool _ | int _ | float _ | str _ | map _ | tagged _ _ =>
    constructor <;> simp [walkValue, FieldKind.errors, FieldKind.admits]

mutual

/-- The walk over fields tells their places. -/
theorem tells_walkFields (entries : Entries) (parent : FieldPath) (fields : List Field)
    (done : List (String × Param)) :
    (walkFields entries parent fields done).Tells (placesOf entries parent fields) := by
  match fields with
  | [] => constructor <;> simp only [walkFields, placesOf, List.flatMap_nil, List.filterMap_nil]
  | field :: rest =>
    have hfield := tells_walkField entries parent field
    have hrest := fun done => tells_walkFields entries parent rest done
    constructor
    · rw [walkFields, placesOf, List.flatMap_append, hfield.errors, (hrest _).errors]
    · rw [walkFields, placesOf, List.filterMap_append, hfield.missing, (hrest _).missing]

/-- The walk over one field tells its place and those below it. -/
theorem tells_walkField (entries : Entries) (parent : FieldPath) (field : Field) :
    (walkField entries parent field).Tells (placesOfField entries parent field) := by
  match field with
  | ⟨name, kind, presence⟩ =>
    rw [placesOfField]
    cases hvalue : entries.valueOf? name with
    | some v =>
      have hbelow := tells_walkValue (parent ++ [name]) v presence kind
      constructor
      · simp [walkField, lookup?_eq_valueOf?, hvalue, hbelow.errors, Place.errors]
      · simp [walkField, lookup?_eq_valueOf?, hvalue, hbelow.missing, Place.missing?]
    | none =>
      have hbelow := tells_walkAbsent (parent ++ [name]) kind
      cases presence with
      | optional | required =>
        constructor
        · simp [walkField, lookup?_eq_valueOf?, hvalue, hbelow.errors, Place.errors,
            Presence.contents?]
        · simp [walkField, lookup?_eq_valueOf?, hvalue, hbelow.missing, Place.missing?,
            Presence.contents?]
      | default v =>
        cases kind <;> constructor <;> simp [walkField, lookup?_eq_valueOf?, hvalue, Place.errors,
          Place.missing?, Presence.contents?, placesBelow]

/-- The walk over an absent record tells the places in an empty one. -/
theorem tells_walkAbsent (path : FieldPath) (kind : FieldKind) :
    (walkAbsent path kind).Tells (placesBelow path (some []) kind) := by
  match kind with
  | .record fields =>
    have hfields := tells_walkFields [] path fields []
    rw [walkAbsent, placesBelow]
    exact ⟨hfields.errors, hfields.missing⟩
  | .text | .int | .flag | .texts => constructor <;> simp [walkAbsent, placesBelow]

/-- The walk over a value tells what is wrong with it and the places below it. -/
theorem tells_walkValue (path : FieldPath) (v : Yaml.Value) (presence : Presence)
    (kind : FieldKind) :
    (walkValue path v kind).TellsValue (kind.errors path v)
      (placesBelow path (presence.contents? (some v)) kind) := by
  match kind with
  | .record fields =>
    cases v with
    | map inner =>
      have hfields := tells_walkFields inner path fields []
      constructor
      · simp [walkValue, placesBelow, Presence.contents?, FieldKind.errors, FieldKind.admits,
          hfields.errors]
      · simp [walkValue, placesBelow, Presence.contents?, hfields.missing]
    | null | bool _ | int _ | float _ | str _ | seq _ | tagged _ _ =>
      constructor <;>
        simp [walkValue, placesBelow, Presence.contents?, FieldKind.errors, FieldKind.admits]
  | .int => simpa only [placesBelow] using tells_walkValue_int path v
  | .texts => simpa only [placesBelow] using tells_walkValue_texts path v
  | .text | .flag =>
    cases v <;> constructor <;>
      simp [walkValue, placesBelow, FieldKind.errors, FieldKind.admits]

end

/-- The value at a path of several names is found in the mapping that the first name leads to. -/
theorem Entries.valueAt?_cons (entries : Entries) (name : String) {rest : FieldPath}
    (h : rest ≠ []) : entries.valueAt? (name :: rest) =
      match entries.valueOf? name with
      | some (.map inner) => Entries.valueAt? inner rest
      | _ => none := by
  cases rest with
  | nil => exact absurd rfl h
  | cons next rest => rfl

/-- An empty mapping has no value at any path. -/
theorem Entries.valueAt?_nil (path : FieldPath) : Entries.valueAt? [] path = none := by
  match path with
  | [] | [_] | _ :: _ :: _ => rfl

/-- The value of a place is the one that the entries have at its path. -/
def Place.LiesIn (p : Place) (entries : Entries) (parent : FieldPath) : Prop :=
  ∃ rest, rest ≠ [] ∧ p.path = parent ++ rest ∧ p.value? = entries.valueAt? rest

/-- What lies in the contents of a field lies in the entries that have the field. -/
theorem Place.LiesIn.of_contents {p : Place} {entries inner : Entries} {parent : FieldPath}
    {name : String} {presence : Presence} (h : p.LiesIn inner (parent ++ [name]))
    (hinner : presence.contents? (entries.valueOf? name) = some inner) :
    p.LiesIn entries parent := by
  obtain ⟨rest, hrest, hpath, hvalue⟩ := h
  refine ⟨name :: rest, List.cons_ne_nil name rest, ?_, ?_⟩
  · rw [hpath, List.append_assoc, List.singleton_append]
  · rw [Entries.valueAt?_cons entries name hrest, hvalue]
    cases hfound : entries.valueOf? name with
    | some v =>
      rw [hfound] at hinner
      cases v with
      | map entries =>
        cases hinner
        rfl
      | null | bool _ | int _ | float _ | str _ | seq _ | tagged _ _ => cases hinner
    | none =>
      rw [hfound] at hinner
      cases presence with
      | optional | required =>
        cases hinner
        exact Entries.valueAt?_nil rest
      | default _ => cases hinner

mutual

/-- Every place lies in the entries that its schema is walked along. -/
theorem liesIn_of_mem_placesOf {entries : Entries} {parent : FieldPath} {fields : List Field}
    {p : Place} (h : p ∈ placesOf entries parent fields) : p.LiesIn entries parent := by
  match fields with
  | [] => simp only [placesOf, List.not_mem_nil] at h
  | field :: rest =>
    rw [placesOf] at h
    rcases List.mem_append.mp h with h | h
    · exact liesIn_of_mem_placesOfField h
    · exact liesIn_of_mem_placesOf h

theorem liesIn_of_mem_placesOfField {entries : Entries} {parent : FieldPath} {field : Field}
    {p : Place} (h : p ∈ placesOfField entries parent field) : p.LiesIn entries parent := by
  match field with
  | ⟨name, kind, presence⟩ =>
    rw [placesOfField] at h
    rcases List.mem_cons.mp h with rfl | h
    · exact ⟨[name], List.cons_ne_nil name [], rfl, rfl⟩
    · obtain ⟨inner, hinner, hlies⟩ := liesIn_of_mem_placesBelow h
      exact hlies.of_contents hinner

theorem liesIn_of_mem_placesBelow {path : FieldPath} {contents? : Option Entries}
    {kind : FieldKind} {p : Place} (h : p ∈ placesBelow path contents? kind) :
    ∃ inner, contents? = some inner ∧ p.LiesIn inner path := by
  match kind, contents? with
  | .record fields, some inner =>
    rw [placesBelow] at h
    exact ⟨inner, rfl, liesIn_of_mem_placesOf h⟩
  | .record _, none | .text, _ | .int, _ | .flag, _ | .texts, _ =>
    simp only [placesBelow, List.not_mem_nil] at h

end

/-- What is wrong with a value is reported at its path. -/
theorem FieldKind.path_eq_of_mem_errors {kind : FieldKind} {path own : FieldPath} {v : Yaml.Value}
    {item : Option Nat} {expected : String} {found : Found}
    (h : TypeError.field path item expected found ∈ kind.errors own v) : path = own := by
  unfold FieldKind.errors at h
  split at h
  · split at h
    · obtain ⟨⟨item, i⟩, -, hitem⟩ := List.mem_filterMap.mp h
      dsimp only at hitem
      split at hitem
      · cases hitem
      · cases hitem
        rfl
    · cases h
  · cases List.mem_singleton.mp h
    rfl

/-- A path with a type error is that of a place with a value. -/
theorem Schema.exists_place_of_mem_typeErrors {schema : Schema} {v : Yaml.Value} {path : FieldPath}
    {item : Option Nat} {expected : String} {found : Found}
    (h : TypeError.field path item expected found ∈ schema.typeErrors v) :
    ∃ p ∈ schema.places v, p.path = path ∧ p.value? ≠ none := by
  have hmem : TypeError.field path item expected found ∈
      (schema.places v).flatMap Place.errors := by
    unfold Schema.typeErrors at h
    split at h
    · exact h
    · exact h
    · cases List.mem_singleton.mp h
  obtain ⟨p, hp, herror⟩ := List.mem_flatMap.mp hmem
  refine ⟨p, hp, ?_⟩
  unfold Place.errors at herror
  split at herror
  · next v hv =>
    exact ⟨(FieldKind.path_eq_of_mem_errors herror).symm, hv ▸ Option.some_ne_none v⟩
  · cases herror

/-- A path that is missing is that of a place without a value. -/
theorem Schema.exists_place_of_mem_absences {schema : Schema} {v : Yaml.Value} {path : FieldPath}
    (h : path ∈ schema.absences v) :
    ∃ p ∈ schema.places v, p.path = path ∧ p.value? = none := by
  obtain ⟨p, hp, hmissing⟩ := List.mem_filterMap.mp h
  unfold Place.missing? at hmissing
  split at hmissing
  · next hempty => exact ⟨p, hp, Option.some.inj hmissing, hempty.2⟩
  · cases hmissing

/-- Every place of params lies in one mapping. -/
theorem Schema.exists_liesIn (schema : Schema) (v : Yaml.Value) :
    ∃ entries : Entries, ∀ p ∈ schema.places v, p.LiesIn entries [] := by
  unfold Schema.places
  split
  · exact ⟨[], fun p hp => liesIn_of_mem_placesOf hp⟩
  · next entries => exact ⟨entries, fun p hp => liesIn_of_mem_placesOf hp⟩
  · exact ⟨[], nofun⟩

/-- Paths whose names hold no point are told apart by their texts. -/
theorem FieldPath.eq_of_dotted_eq {p q : FieldPath} (hp : p ≠ []) (hq : q ≠ [])
    (hplain : ∀ name ∈ p ++ q, '.' ∉ name.toList) (h : p.dotted = q.dotted) : p = q := by
  have hsplit : ∀ r : FieldPath, r ≠ [] → (∀ name ∈ r, '.' ∉ name.toList) →
      r.dotted.toList.splitOn '.' = r.map String.toList := by
    intro r hr hnames
    rw [FieldPath.dotted, String.toList_intercalate]
    refine List.splitOn_intercalate '.' ?_ (mt List.map_eq_nil_iff.mp hr)
    intro letters hletters
    obtain ⟨name, hname, rfl⟩ := List.mem_map.mp hletters
    exact hnames name hname
  have hmap : p.map String.toList = q.map String.toList := by
    rw [← hsplit p hp fun name hname => hplain name (List.mem_append_left q hname),
      ← hsplit q hq fun name hname => hplain name (List.mem_append_right p hname), h]
  exact (List.map_inj_right fun a b hab => String.toList_inj.mp hab).mp hmap

/-- The three outcomes of decoding the entries of a mapping. -/
theorem decodeEntries_reports (schema : Schema) (entries : Entries) :
    let types := (placesOf entries [] schema).flatMap Place.errors
    let absent := (placesOf entries [] schema).filterMap Place.missing?
    (types ≠ [] → decodeEntries schema entries = .error (.type types)) ∧
    (types = [] → absent ≠ [] → decodeEntries schema entries = .error (.missing absent)) ∧
    (types = [] → absent = [] → ∃ params, decodeEntries schema entries = .ok params) := by
  intro types absent
  obtain ⟨herrors, hmissing⟩ := tells_walkFields entries [] schema []
  refine ⟨?_, ?_, ?_⟩
  · intro htypes
    rw [decodeEntries, if_pos (herrors.symm ▸ htypes), herrors]
  · intro htypes habsent
    rw [decodeEntries, if_neg (not_not_intro (herrors.trans htypes)),
      if_pos (hmissing.symm ▸ habsent), hmissing]
  · intro htypes habsent
    rw [decodeEntries, if_neg (not_not_intro (herrors.trans htypes)),
      if_neg (not_not_intro (hmissing.trans habsent))]
    exact ⟨_, rfl⟩

/-- A path with a type error has a value, so it is not missing, nor is another with its text. -/
theorem Schema.not_mem_absences_of_mem_typeErrors {schema : Schema} {v : Yaml.Value}
    {path : FieldPath} {item : Option Nat} {expected : String} {found : Found}
    (h : TypeError.field path item expected found ∈ schema.typeErrors v) :
    path ∉ schema.absences v ∧
      ∀ other ∈ schema.absences v, (∀ name ∈ path ++ other, '.' ∉ name.toList) →
        path.dotted ≠ other.dotted := by
  obtain ⟨entries, hentries⟩ := schema.exists_liesIn v
  obtain ⟨p, hp, hpath, hsome⟩ := Schema.exists_place_of_mem_typeErrors h
  obtain ⟨rest, hrest, hprefix, hvalue⟩ := hentries p hp
  have hown : path = rest := hpath.symm.trans hprefix
  have hother : ∀ other ∈ schema.absences v, other ≠ [] ∧ path ≠ other := by
    intro other hmem
    obtain ⟨q, hq, hqpath, hnone⟩ := Schema.exists_place_of_mem_absences hmem
    obtain ⟨tail, htail, hqprefix, hqvalue⟩ := hentries q hq
    have hthat : other = tail := hqpath.symm.trans hqprefix
    refine ⟨hthat ▸ htail, ?_⟩
    intro hsame
    rw [hvalue, ← hown, hsame, hthat, ← hqvalue] at hsome
    exact hsome hnone
  refine ⟨fun hmem => (hother path hmem).2 rfl, ?_⟩
  intro other hmem hplain hdotted
  obtain ⟨hne, hdiffers⟩ := hother other hmem
  exact hdiffers (FieldPath.eq_of_dotted_eq (hown ▸ hrest) hne hplain hdotted)

/-- Decoding fails with all type errors that the places of a schema have, in their order. Without
any it fails with the paths of all required fields that are absent, in their order, and without
these it succeeds. No path is reported for both, nor is its text as long as no name holds a point.
Params that are neither null nor a mapping have one type error. -/
theorem decode_reports (schema : Schema) (v : Yaml.Value) :
    let types := schema.typeErrors v
    let absent := schema.absences v
    (types ≠ [] → decode schema v = .error (.type types)) ∧
    (types = [] → absent ≠ [] → decode schema v = .error (.missing absent)) ∧
    (types = [] → absent = [] → ∃ params, decode schema v = .ok params) ∧
    (∀ path item expected found, .field path item expected found ∈ types →
      path ∉ absent ∧ ∀ other ∈ absent, (∀ name ∈ path ++ other, '.' ∉ name.toList) →
        path.dotted ≠ other.dotted) ∧
    (v ≠ .null → (∀ entries, v ≠ .map entries) → types = [.root (.ofValue v)]) := by
  intro types absent
  have hpaths : ∀ path item expected found, .field path item expected found ∈ types →
      path ∉ absent ∧ ∀ other ∈ absent, (∀ name ∈ path ++ other, '.' ∉ name.toList) →
        path.dotted ≠ other.dotted :=
    fun _ _ _ _ h => Schema.not_mem_absences_of_mem_typeErrors h
  cases v with
  | null =>
    obtain ⟨htype, hmissing, hok⟩ := decodeEntries_reports schema []
    exact ⟨htype, hmissing, hok, hpaths, fun h => absurd rfl h⟩
  | map entries =>
    obtain ⟨htype, hmissing, hok⟩ := decodeEntries_reports schema entries
    exact ⟨htype, hmissing, hok, hpaths, fun _ h => absurd rfl (h entries)⟩
  | bool _ | int _ | float _ | str _ | seq _ | tagged _ _ =>
    exact ⟨fun _ => rfl, fun h => absurd h (List.cons_ne_nil _ []),
      fun h => absurd h (List.cons_ne_nil _ []), hpaths, fun _ _ => rfl⟩

/-- What is required in an absent record is missing, except in one with a default. -/
example :
    let inner : FieldKind := .record [⟨"B", .flag, .required⟩, ⟨"C", .int, .optional⟩]
    decode [⟨"A", inner, .required⟩, ⟨"D", inner, .optional⟩, ⟨"E", inner, .default (.record [])⟩]
      .null = .error (.missing [["A"], ["A", "B"], ["D", "B"]]) := by
  rfl

end ServiceControl
