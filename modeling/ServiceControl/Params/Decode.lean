import ServiceControl.Params.Schema
import ServiceControl.Text.Ascii
import ServiceControl.Yaml.Value

/-!
# Decoding params

Untyped params are walked along a schema. Keys match declared names up to the case of ASCII letters,
the first match counts, null counts as absent, and keys that are not declared are not looked at. All
mismatches of type are reported at once; if there is none, all required fields that are absent are.
-/

namespace ServiceControl

/-- The type of a value that was found where another was expected. -/
inductive Found where
  | null
  | flag
  | float
  | int
  | text
  | list
  | map
  | tagged
  deriving DecidableEq, Repr

namespace Found

/-- The type of a value. -/
def ofValue : Yaml.Value → Found
  | .null => null
  | .bool _ => flag
  | .float _ => float
  | .int _ => int
  | .str _ => text
  | .seq _ => list
  | .map _ => map
  | .tagged _ _ => tagged

/-- The name of a type in messages. -/
def label : Found → String
  | null => "nil"
  | flag => "bool"
  | float => "float64"
  | int => "int"
  | text => "string"
  | list => "[]interface \x7b\x7d"
  | map => "map"
  | tagged => "tagged"

end Found

/-- The place of a field: declared names from the root. -/
abbrev FieldPath := List String

/-- The names of a path joined by points. -/
def FieldPath.dotted (p : FieldPath) : String := ".".intercalate p

/-- A value of the wrong type. -/
inductive TypeError where
  /-- The params are neither a mapping nor null. -/
  | root (found : Found)
  /-- A field, or an item of a list, holds another type than declared. -/
  | field (path : FieldPath) (item : Option Nat) (expected : String) (found : Found)
  deriving DecidableEq, Repr

/-- The wording of a type error. -/
def TypeError.message : TypeError → String
  | root found => s!"'' expected a map, got unconvertible type '{found.label}'"
  | field path none expected found =>
    s!"'{path.dotted}' expected type '{expected}', got unconvertible type '{found.label}'"
  | field path (some i) expected found =>
    s!"'{path.dotted}[{i}]' expected type '{expected}', got unconvertible type '{found.label}'"

/-- Why params could not be decoded. -/
inductive DecodeError where
  /-- Values of the wrong type, in the order of the schema. -/
  | type (errors : List TypeError)
  /-- Required fields that are absent, in the order of the schema. -/
  | missing (paths : List FieldPath)
  deriving DecidableEq, Repr

namespace DecodeError

/-- The wording of a decoding error. -/
def message : DecodeError → String
  | type errors =>
    s!"{errors.length} error(s) decoding:\n\n" ++
      "\n".intercalate (errors.map fun e => "* " ++ e.message)
  | missing paths => "Missing " ++ ",".intercalate (paths.map FieldPath.dotted)

/-- The dotted paths of absent fields; none for type errors. -/
def missingPaths : DecodeError → List String
  | type _ => []
  | missing paths => paths.map FieldPath.dotted

end DecodeError

/-- What a walk has gathered. -/
structure Walked (α : Type) where
  value : α
  errors : List TypeError := []
  missing : List FieldPath := []

/-- Whether a value is null, tags aside. -/
def Yaml.Value.isNull : Yaml.Value → Bool
  | .null => true
  | .tagged _ v => v.isNull
  | _ => false

/-- The first value under a key that spells the name, unless null. -/
def lookup? (name : String) : List (Yaml.Value × Yaml.Value) → Option Yaml.Value
  | [] => none
  | (.str k, v) :: r =>
    if Text.SameLetters k name ∧ !v.isNull then some v else lookup? name r
  | _ :: r => lookup? name r

/-- The texts of a list; other items are errors and left out. -/
def walkTexts (path : FieldPath) (index : Nat) : List Yaml.Value → Walked (List String)
  | [] => ⟨[], [], []⟩
  | .str s :: r =>
    let w := walkTexts path (index + 1) r
    { w with value := s :: w.value }
  | v :: r =>
    let w := walkTexts path (index + 1) r
    { w with errors := .field path (some index) FieldKind.text.label (.ofValue v) :: w.errors }

mutual

/-- Walks the fields of a schema, and puts what they hold into sorted fields. -/
def walkFields (entries : List (Yaml.Value × Yaml.Value)) (parent : FieldPath) :
    List Field → List (String × Param) → Walked (List (String × Param))
  | [], done => ⟨done, [], []⟩
  | field :: rest, done =>
    let w := walkField entries parent field
    let done := match w.value with
      | some v => SortedMap.insertEntry field.name v done
      | none => done
    let r := walkFields entries parent rest done
    ⟨r.value, w.errors ++ r.errors, w.missing ++ r.missing⟩

/-- Walks one field: nothing comes out of it if it is absent or of the wrong type. -/
def walkField (entries : List (Yaml.Value × Yaml.Value)) (parent : FieldPath) :
    Field → Walked (Option Param)
  | ⟨name, kind, presence⟩ =>
    let path := parent ++ [name]
    match lookup? name entries with
    | some v => walkValue path v kind
    | none =>
      let missing := match presence with
        | .required => [path]
        | _ => []
      match presence with
      | .default v => ⟨some v, [], []⟩
      | _ =>
        let w := walkAbsent path kind
        { w with missing := missing ++ w.missing }

/-- An absent record is walked as an empty one. -/
def walkAbsent (path : FieldPath) : FieldKind → Walked (Option Param)
  | .record fields =>
    let w := walkFields [] path fields []
    ⟨some (.record w.value), w.errors, w.missing⟩
  | _ => ⟨none, [], []⟩

/-- Walks a value along its declared kind. -/
def walkValue (path : FieldPath) (v : Yaml.Value) : FieldKind → Walked (Option Param)
  | .text => match v with
    | .str s => ⟨some (.text s), [], []⟩
    | v => ⟨none, [.field path none FieldKind.text.label (.ofValue v)], []⟩
  | .int => match v with
    | .int i =>
      if -2 ^ 63 ≤ i ∧ i < 2 ^ 63 then ⟨some (.int i), [], []⟩
      else ⟨none, [.field path none FieldKind.int.label .int], []⟩
    | v => ⟨none, [.field path none FieldKind.int.label (.ofValue v)], []⟩
  | .flag => match v with
    | .bool b => ⟨some (.flag b), [], []⟩
    | v => ⟨none, [.field path none FieldKind.flag.label (.ofValue v)], []⟩
  | .texts => match v with
    | .seq items =>
      let w := walkTexts path 0 items
      ⟨some (.texts w.value), w.errors, []⟩
    | v => ⟨none, [.field path none FieldKind.texts.label (.ofValue v)], []⟩
  | .record fields => match v with
    | .map entries =>
      let w := walkFields entries path fields []
      ⟨some (.record w.value), w.errors, w.missing⟩
    | v => ⟨none, [.field path none (FieldKind.record fields).label (.ofValue v)], []⟩

end

/-- Only insertions happen to the fields of a walk, so they stay sorted. -/
theorem sortedKeys_walkFields {entries : List (Yaml.Value × Yaml.Value)} {parent : FieldPath}
    {fields : List Field} {done : List (String × Param)} (h : SortedKeys done) :
    SortedKeys (walkFields entries parent fields done).value := by
  induction fields generalizing done with
  | nil => simpa only [walkFields] using h
  | cons field rest ih =>
    simp only [walkFields]
    apply ih
    split
    · exact SortedMap.sortedKeys_insertEntry h
    · exact h

/-- Decodes the entries of a mapping. -/
def decodeEntries (schema : Schema) (entries : List (Yaml.Value × Yaml.Value)) :
    Except DecodeError Params :=
  let w := walkFields entries [] schema []
  if w.errors ≠ [] then .error (.type w.errors)
  else if w.missing ≠ [] then .error (.missing w.missing)
  else .ok ⟨w.value, sortedKeys_walkFields List.Pairwise.nil⟩

/-- Decodes untyped params; null is an empty mapping. -/
def decode (schema : Schema) : Yaml.Value → Except DecodeError Params
  | .null => decodeEntries schema []
  | .map entries => decodeEntries schema entries
  | v => .error (.type [.root (.ofValue v)])

end ServiceControl
