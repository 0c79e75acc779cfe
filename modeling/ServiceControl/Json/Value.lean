import ServiceControl.Collection.SortedMap
import ServiceControl.Number.Binary64

/-!
# JSON values

A value as it is read from a text or about to be written. Objects keep their fields in the order of
the text, repeated keys included, because records refuse a repeated field and maps take the last
one. A part of a text that has the form of JSON but stands for no value is a fault: it is harmless
in a field that nobody reads, and refused everywhere else.

The canonical form has no faults and objects with strictly increasing keys. It is what a
free payload is kept in.
-/

namespace ServiceControl

/-- A JSON value. -/
inductive Json where
  | null
  | bool (b : Bool)
  | int (i : Int)
  | float (x : Binary64)
  | str (s : String)
  | arr (items : List Json)
  | obj (fields : List (String × Json))
  /-- A number out of range, a text that is not Unicode, or nesting beyond the limit. -/
  | fault
  deriving Repr, Inhabited

namespace Json

mutual

/-- No faults, and the keys of every object increase. -/
def isCanonical : Json → Bool
  | .arr items => itemsCanonical items
  | .obj fields => decide (SortedKeys fields) && fieldsCanonical fields
  | .fault => false
  | _ => true

/-- Every item is canonical. -/
def itemsCanonical : List Json → Bool
  | [] => true
  | j :: r => isCanonical j && itemsCanonical r

/-- Every field's value is canonical. -/
def fieldsCanonical : List (String × Json) → Bool
  | [] => true
  | (_, j) :: r => isCanonical j && fieldsCanonical r

end

mutual

/-- The canonical form; of a repeated key the last value stays. -/
def canonical? : Json → Option Json
  | .arr items => (canonicalItems? items).map .arr
  | .obj fields => (canonicalFields? [] fields).map .obj
  | .fault => none
  | j => some j

/-- The canonical forms of items. -/
def canonicalItems? : List Json → Option (List Json)
  | [] => some []
  | j :: r => do
    let j ← canonical? j
    return j :: (← canonicalItems? r)

/-- Puts the canonical forms of fields into sorted fields. -/
def canonicalFields? (sorted : List (String × Json)) :
    List (String × Json) → Option (List (String × Json))
  | [] => some sorted
  | (k, j) :: r => do
    let j ← canonical? j
    canonicalFields? (SortedMap.insertEntry k j sorted) r

end

/-- Fields stay canonical when a canonical value is put among them. -/
theorem fieldsCanonical_insertEntry {k : String} {j : Json} {fields : List (String × Json)}
    (hj : isCanonical j) (h : fieldsCanonical fields) :
    fieldsCanonical (SortedMap.insertEntry k j fields) := by
  induction fields with
  | nil => simpa only [SortedMap.insertEntry, fieldsCanonical, Bool.and_true] using hj
  | cons e r ih =>
    obtain ⟨k', j'⟩ := e
    simp only [fieldsCanonical, Bool.and_eq_true] at h
    simp only [SortedMap.insertEntry]
    split
    · simp only [fieldsCanonical, hj, h, Bool.and_self]
    · split
      · simp only [fieldsCanonical, hj, h, Bool.and_self]
      · simp only [fieldsCanonical, h.1, ih h.2, Bool.and_self]

mutual

/-- What the canonical form is, is canonical. -/
theorem isCanonical_of_canonical? {j c : Json} (h : canonical? j = some c) : isCanonical c := by
  match j with
  | .null => cases h; rfl
  | .bool _ => cases h; rfl
  | .int _ => cases h; rfl
  | .float _ => cases h; rfl
  | .str _ => cases h; rfl
  | .fault => cases h
  | .arr items =>
    obtain ⟨r, hr, rfl⟩ := Option.map_eq_some_iff.1 h
    simpa only [isCanonical] using itemsCanonical_of_canonicalItems? hr
  | .obj fields =>
    obtain ⟨r, hr, rfl⟩ := Option.map_eq_some_iff.1 h
    have := sorted_of_canonicalFields? List.Pairwise.nil rfl hr
    simpa only [isCanonical, Bool.and_eq_true, decide_eq_true_eq] using this

/-- Canonical items come out of any items. -/
theorem itemsCanonical_of_canonicalItems? {items r : List Json}
    (h : canonicalItems? items = some r) : itemsCanonical r := by
  match items with
  | [] => cases h; rfl
  | j :: rest =>
    simp only [canonicalItems?, Option.bind_eq_bind, Option.bind_eq_some_iff] at h
    obtain ⟨c, hc, rs, hrs, he⟩ := h
    cases he
    simp only [itemsCanonical, isCanonical_of_canonical? hc,
      itemsCanonical_of_canonicalItems? hrs, Bool.and_self]

/-- Sorted canonical fields come out of any fields put into sorted canonical ones. -/
theorem sorted_of_canonicalFields? {sorted fields r : List (String × Json)}
    (hs : SortedKeys sorted) (hc : fieldsCanonical sorted)
    (h : canonicalFields? sorted fields = some r) : SortedKeys r ∧ fieldsCanonical r := by
  match fields with
  | [] => cases h; exact ⟨hs, hc⟩
  | (k, j) :: rest =>
    simp only [canonicalFields?, Option.bind_eq_bind, Option.bind_eq_some_iff] at h
    obtain ⟨c, hj, h⟩ := h
    exact sorted_of_canonicalFields? (SortedMap.sortedKeys_insertEntry hs)
      (fieldsCanonical_insertEntry (isCanonical_of_canonical? hj) hc) h

end

end Json

/-- The fields of an object in canonical form: free data that is carried unchanged. -/
structure Payload where
  /-- Keys and values. -/
  fields : List (String × Json)
  /-- The object is canonical. -/
  canonical : Json.isCanonical (.obj fields)
  deriving Repr

instance : Inhabited Payload := ⟨[], rfl⟩

/-- The payload of fields in any order; of a repeated key the last value stays. -/
def Payload.ofFields? (fields : List (String × Json)) : Option Payload :=
  match h : Json.canonical? (.obj fields) with
  | some (.obj sorted) => some ⟨sorted, Json.isCanonical_of_canonical? h⟩
  | _ => none

end ServiceControl
