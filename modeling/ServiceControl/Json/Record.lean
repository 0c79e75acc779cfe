import ServiceControl.Json.Value

/-!
# Records in JSON

Records are read by the names of their fields or by position. By name, other fields are not looked
at, a missing field is left to the reader of the record, and a field may not stand twice. By
position, fields may be missing at the end, and there may be none beyond the last.
-/

namespace ServiceControl.Json

/-- The declared fields that are present in a record. -/
abbrev Record := List (String × Json)

/-- The fields of an object that have one of the names; nothing if one stands twice. -/
def namedFields? (names : List String) : List (String × Json) → Option Record
  | [] => some []
  | (k, j) :: r => do
    let found ← namedFields? names r
    if k ∈ names then
      if (found.find? (·.1 == k)).isSome then none else return (k, j) :: found
    else return found

/-- Reads a record with the given field names, in their order for a positional list. Items of a list
beyond the last field are refused unless they are allowed. -/
def recordWith? (allowMore : Bool) (names : List String) : Json → Option Record
  | .obj fields => namedFields? names fields
  | .arr items =>
    if allowMore || items.length ≤ names.length then some (names.zip items) else none
  | _ => none

/-- Reads a record with the given field names and no further items. -/
def record? (names : List String) (j : Json) : Option Record := j.recordWith? false names

namespace Record

/-- The value of a field, if it is present. -/
def get? (r : Record) (name : String) : Option Json := (r.find? (·.1 == name)).map Prod.snd

/-- Reads a field that must be present. -/
def required (r : Record) (name : String) (read : Json → Option α) : Option α :=
  (r.get? name).bind read

/-- Reads a field, or takes a default if it is absent. -/
def withDefault (r : Record) (name : String) (default : α) (read : Json → Option α) : Option α :=
  match r.get? name with
  | some j => read j
  | none => some default

/-- Reads a field that may be absent or null. -/
def optional (r : Record) (name : String) (read : Json → Option α) : Option (Option α) :=
  match r.get? name with
  | some .null => some none
  | some j => (read j).map some
  | none => some none

end Record

/-- Reads a text. -/
def text? : Json → Option String
  | .str s => some s
  | _ => none

/-- Reads a truth value. -/
def bool? : Json → Option Bool
  | .bool b => some b
  | _ => none

/-- Reads an integer within bounds. -/
def intIn? (lo hi : Int) : Json → Option Int
  | .int i => if lo ≤ i ∧ i ≤ hi then some i else none
  | _ => none

/-- Reads a signed 64-bit integer. -/
def int64? : Json → Option Int := intIn? (-2 ^ 63) (2 ^ 63 - 1)

/-- Reads a signed 32-bit integer. -/
def int32? : Json → Option Int := intIn? (-2 ^ 31) (2 ^ 31 - 1)

/-- Reads an unsigned 64-bit integer. -/
def word64? (j : Json) : Option Nat := (intIn? 0 (2 ^ 64 - 1) j).map Int.toNat

/-- Reads a number as a double; integers are rounded. -/
def double? : Json → Option Binary64
  | .int i => some (Binary64.ofInt i)
  | .float x => some x
  | _ => none

/-- Reads each item of a list. -/
def list? (read : Json → Option α) : Json → Option (List α)
  | .arr items => items.mapM read
  | _ => none

/-- Reads an object as a map; of a repeated key the last value stays. -/
def map? (read : Json → Option α) : Json → Option (SortedMap α)
  | .obj fields => (fields.mapM fun e => (read e.2).map (e.1, ·)).map SortedMap.ofList
  | _ => none

/-- Reads an object as free data. -/
def payload? : Json → Option Payload
  | .obj fields => Payload.ofFields? fields
  | _ => none

end ServiceControl.Json
