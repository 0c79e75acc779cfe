import ServiceControl.Params.Decode

/-!
# The places that a schema declares

A schema and params give a list of places in the order of declaration, a record before its fields.
Each place has a path and the value that the params have there. The fields of an absent record are
places too, with nothing in them, unless the record has a default. What is wrong with params is told
place by place, without the walk that decodes them.
-/

namespace ServiceControl

/-- Entries of a mapping. -/
abbrev Entries := List (Yaml.Value × Yaml.Value)

/-- The value of a field among entries: that of the first entry which is not null and whose key
spells the name of the field. -/
def Entries.valueOf? (entries : Entries) (name : String) : Option Yaml.Value :=
  (entries.find? fun entry => match entry with
    | (.str key, value) => Text.SameLetters key name && !value.isNull
    | _ => false).map Prod.snd

/-- The value at a path among entries. All names but the last have to lead to mappings. -/
def Entries.valueAt? : Entries → FieldPath → Option Yaml.Value
  | _, [] => none
  | entries, [name] => entries.valueOf? name
  | entries, name :: rest =>
    match entries.valueOf? name with
    | some (.map inner) => valueAt? inner rest
    | _ => none

/-- A declared field with its path and with the value that the params have for it. -/
structure Place where
  path : FieldPath
  kind : FieldKind
  presence : Presence
  value? : Option Yaml.Value

/-- The entries in which the fields of a record are looked up. A value that is no mapping
has none, nor has the default of an absent record, and an absent record without a default
is taken for empty. -/
def Presence.contents? (presence : Presence) : Option Yaml.Value → Option Entries
  | some (.map entries) => some entries
  | some _ => none
  | none =>
    match presence with
    | .default _ => none
    | .optional | .required => some []

mutual

/-- The places of fields in the order of declaration. -/
def placesOf (entries : Entries) (parent : FieldPath) : List Field → List Place
  | [] => []
  | field :: rest => placesOfField entries parent field ++ placesOf entries parent rest

/-- The place of a field, and behind it those of the fields in it. -/
def placesOfField (entries : Entries) (parent : FieldPath) : Field → List Place
  | ⟨name, kind, presence⟩ =>
    let path := parent ++ [name]
    let value? := entries.valueOf? name
    ⟨path, kind, presence, value?⟩ :: placesBelow path (presence.contents? value?) kind

/-- The places of the fields of a record. -/
def placesBelow (path : FieldPath) (contents? : Option Entries) : FieldKind → List Place
  | .record fields =>
    match contents? with
    | some entries => placesOf entries path fields
    | none => []
  | .text | .int | .flag | .texts => []

end

/-- Whether a value is of a kind, the items of lists and the fields of records aside. -/
def FieldKind.admits : FieldKind → Yaml.Value → Bool
  | .text, .str _ => true
  | .int, .int i => -2 ^ 63 ≤ i && i < 2 ^ 63
  | .flag, .bool _ => true
  | .texts, .seq _ => true
  | .record _, .map _ => true
  | _, _ => false

/-- The items of a list that are no texts, each with its index. -/
def itemErrors (path : FieldPath) (items : List Yaml.Value) : List TypeError :=
  items.zipIdx.filterMap fun (item, i) =>
    if FieldKind.text.admits item then none
    else some (.field path (some i) FieldKind.text.label (.ofValue item))

/-- What is wrong with a value at a path. -/
def FieldKind.errors (kind : FieldKind) (path : FieldPath) (v : Yaml.Value) : List TypeError :=
  if kind.admits v then
    match kind, v with
    | .texts, .seq items => itemErrors path items
    | _, _ => []
  else [.field path none kind.label (.ofValue v)]

namespace Place

/-- What is wrong with the value in a place. -/
def errors (p : Place) : List TypeError :=
  match p.value? with
  | some v => p.kind.errors p.path v
  | none => []

/-- The path of a place that must not be empty, and is. -/
def missing? (p : Place) : Option FieldPath :=
  if p.presence = .required ∧ p.value? = none then some p.path else none

end Place

/-- The places of a schema in params. There are none in params that are neither null nor a
mapping. -/
def Schema.places (schema : Schema) : Yaml.Value → List Place
  | .null => placesOf [] [] schema
  | .map entries => placesOf entries [] schema
  | _ => []

/-- All that is wrong with the types in params, in the order of the schema. -/
def Schema.typeErrors (schema : Schema) (v : Yaml.Value) : List TypeError :=
  match v with
  | .null | .map _ => (schema.places v).flatMap Place.errors
  | _ => [.root (.ofValue v)]

/-- The paths of all required fields that params do not have, in the order of the schema. -/
def Schema.absences (schema : Schema) (v : Yaml.Value) : List FieldPath :=
  (schema.places v).filterMap Place.missing?

end ServiceControl
