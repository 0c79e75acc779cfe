import ServiceControl.Params.Basic

/-!
# Schemas

A schema declares the fields of an adapter's params: their names, their kinds, and what holds if a
field is absent.
-/

namespace ServiceControl

/-- What holds if a declared field is absent. -/
inductive Presence where
  /-- The field may be absent. -/
  | optional
  /-- The field must be there. -/
  | required
  /-- The field has this value then. -/
  | default (value : Param)
  deriving Repr, DecidableEq, Inhabited

mutual

/-- The kind of value that a field takes. -/
inductive FieldKind where
  | text
  | int
  | flag
  | texts
  | record (fields : List Field)

/-- A declared field. -/
inductive Field where
  | mk (name : String) (kind : FieldKind) (presence : Presence)

end

/-- The declared fields, in the order of declaration. -/
abbrev Schema := List Field

namespace Field

/-- The declared name. -/
def name : Field → String
  | mk name _ _ => name

/-- The declared kind. -/
def kind : Field → FieldKind
  | mk _ kind _ => kind

/-- What holds if the field is absent. -/
def presence : Field → Presence
  | mk _ _ presence => presence

end Field

/-- The name of a kind in messages. -/
def FieldKind.label : FieldKind → String
  | .text => "string"
  | .int => "int"
  | .flag => "bool"
  | .texts => "[]string"
  | .record _ => "struct"

end ServiceControl
