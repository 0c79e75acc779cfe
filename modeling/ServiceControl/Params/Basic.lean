import ServiceControl.Collection.SortedMap

/-!
# Typed params

The params of an adapter once their schema has given them types. Params are equal when they hold the
same values under the same names, and they are compared as sequences of names and values in the
order of the names. Equality and order agree, so params can be part of a key.
-/

namespace ServiceControl

/-- The value of one declared field. The fields of a record are in increasing order of names. -/
inductive Param where
  | text (s : String)
  | int (i : Int)
  | flag (b : Bool)
  | texts (items : List String)
  | record (fields : List (String × Param))
  deriving Repr, Inhabited

/-- Typed params by declared name. -/
abbrev Params := SortedMap Param

namespace Param

mutual

/-- Equality, decided. -/
def beq : Param → Param → Bool
  | .text a, .text b => a == b
  | .int a, .int b => a == b
  | .flag a, .flag b => a == b
  | .texts a, .texts b => a == b
  | .record a, .record b => fieldsBeq a b
  | _, _ => false

/-- Equality of fields, decided. -/
def fieldsBeq : List (String × Param) → List (String × Param) → Bool
  | [], [] => true
  | (k, a) :: r, (l, b) :: s => k == l && beq a b && fieldsBeq r s
  | _, _ => false

end

mutual

theorem eq_of_beq {a b : Param} (h : beq a b = true) : a = b := by
  match a, b with
  | .text _, .text _ | .int _, .int _ | .flag _, .flag _ | .texts _, .texts _ =>
    simp only [beq, beq_iff_eq] at h
    rw [h]
  | .record _, .record _ =>
    simp only [beq] at h
    rw [fields_eq_of_beq h]

theorem fields_eq_of_beq {a b : List (String × Param)} (h : fieldsBeq a b = true) : a = b := by
  match a, b with
  | [], [] => rfl
  | (_, _) :: _, (_, _) :: _ =>
    simp only [fieldsBeq, Bool.and_eq_true, beq_iff_eq] at h
    rw [h.1.1, eq_of_beq h.1.2, fields_eq_of_beq h.2]

end

mutual

theorem beq_refl (a : Param) : beq a a = true := by
  match a with
  | .text _ | .int _ | .flag _ | .texts _ => simp only [beq, beq_self_eq_true]
  | .record fields => simp only [beq, fieldsBeq_refl fields]

theorem fieldsBeq_refl (a : List (String × Param)) : fieldsBeq a a = true := by
  match a with
  | [] => rfl
  | (_, v) :: r =>
    simp only [fieldsBeq, beq_self_eq_true, beq_refl v, fieldsBeq_refl r, Bool.and_self]

end

instance : DecidableEq Param := fun a b =>
  if h : beq a b = true then .isTrue (eq_of_beq h)
  else .isFalse fun he => h (he ▸ beq_refl a)

/-- The place of a variant in the order of values. -/
def variant : Param → Nat
  | .text _ => 0
  | .int _ => 1
  | .flag _ => 2
  | .texts _ => 3
  | .record _ => 4

/-- Lists are compared item by item; a list that ends first is less. -/
def compareTexts : List String → List String → Ordering
  | [], [] => .eq
  | [], _ :: _ => .lt
  | _ :: _, [] => .gt
  | a :: r, b :: s => (compare a b).then (compareTexts r s)

mutual

/-- Values are compared by variant, then by content. -/
def cmp : Param → Param → Ordering
  | .text a, .text b => compare a b
  | .int a, .int b => compare a b
  | .flag a, .flag b => compare a.toNat b.toNat
  | .texts a, .texts b => compareTexts a b
  | .record a, .record b => cmpFields a b
  | a, b => compare a.variant b.variant

/-- Fields are compared by name, then by value, then by what follows. -/
def cmpFields : List (String × Param) → List (String × Param) → Ordering
  | [], [] => .eq
  | [], _ :: _ => .lt
  | _ :: _, [] => .gt
  | (k, a) :: r, (l, b) :: s => ((compare k l).then (cmp a b)).then (cmpFields r s)

end

end Param

namespace Params

/-- Params are compared by the sequence of their names and values. -/
def cmp (a b : Params) : Ordering := Param.cmpFields a.entries b.entries

/-- The text under a name. -/
def text? (p : Params) (name : String) : Option String :=
  match p.find? name with
  | some (.text s) => some s
  | _ => none

/-- The integer under a name. -/
def int? (p : Params) (name : String) : Option Int :=
  match p.find? name with
  | some (.int i) => some i
  | _ => none

/-- The truth value under a name. -/
def flag? (p : Params) (name : String) : Option Bool :=
  match p.find? name with
  | some (.flag b) => some b
  | _ => none

/-- The list under a name. -/
def texts? (p : Params) (name : String) : Option (List String) :=
  match p.find? name with
  | some (.texts l) => some l
  | _ => none

/-- The fields of the record under a name. -/
def record? (p : Params) (name : String) : Option (List (String × Param)) :=
  match p.find? name with
  | some (.record fields) => some fields
  | _ => none

end Params

/-- What a hasher is fed: the data of params in a fixed order, with lengths and variants. -/
inductive HashPart where
  | length (n : Nat)
  | variant (n : Nat)
  | text (s : String)
  | int (i : Int)
  deriving DecidableEq, Repr

mutual

/-- The data of a value. -/
def Param.hashParts : Param → List HashPart
  | .text s => [.variant 0, .text s]
  | .int i => [.variant 1, .int i]
  | .flag b => [.variant 2, .int b.toNat]
  | .texts l => .variant 3 :: .length l.length :: l.map .text
  | .record fields => .variant 4 :: .length fields.length :: Param.fieldsHashParts fields

/-- The data of fields. -/
def Param.fieldsHashParts : List (String × Param) → List HashPart
  | [] => []
  | (k, v) :: r => .text k :: (v.hashParts ++ Param.fieldsHashParts r)

end

/-- The data of params. -/
def Params.hashParts (p : Params) : List HashPart :=
  .length p.size :: Param.fieldsHashParts p.entries

end ServiceControl
