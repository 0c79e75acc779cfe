import ServiceControl.Yaml.Node
import ServiceControl.Number.Decimal

/-!
# YAML values

A value is a document with its aliases replaced and its plain scalars read by the core schema:
nulls, truth values, integers in several bases, and floating-point numbers; everything else is text.
Keys of a mapping are distinct and keep the order of the document.
-/

namespace ServiceControl.Yaml

/-- A YAML value. -/
inductive Value where
  | null
  | bool (b : Bool)
  | int (i : Int)
  | float (x : Binary64)
  | str (s : String)
  | seq (items : List Value)
  | map (entries : List (Value × Value))
  /-- A value under a tag of its own; the tag is given without its exclamation mark. -/
  | tagged (tag : String) (v : Value)
  deriving Repr, Inhabited

namespace Value

mutual

/-- Equality, decided. -/
def beq : Value → Value → Bool
  | .null, .null => true
  | .bool a, .bool b => a == b
  | .int a, .int b => a == b
  | .float a, .float b => a == b
  | .str a, .str b => a == b
  | .seq a, .seq b => itemsBeq a b
  | .map a, .map b => entriesBeq a b
  | .tagged s a, .tagged t b => s == t && beq a b
  | _, _ => false

/-- Equality of items, decided. -/
def itemsBeq : List Value → List Value → Bool
  | [], [] => true
  | a :: r, b :: s => beq a b && itemsBeq r s
  | _, _ => false

/-- Equality of entries, decided. -/
def entriesBeq : List (Value × Value) → List (Value × Value) → Bool
  | [], [] => true
  | (k, a) :: r, (l, b) :: s => beq k l && beq a b && entriesBeq r s
  | _, _ => false

end

mutual

theorem eq_of_beq {a b : Value} (h : beq a b = true) : a = b := by
  match a, b with
  | .null, .null => rfl
  | .bool _, .bool _ | .int _, .int _ | .float _, .float _ | .str _, .str _ =>
    simp only [beq, beq_iff_eq] at h
    rw [h]
  | .seq _, .seq _ =>
    simp only [beq] at h
    rw [items_eq_of_beq h]
  | .map _, .map _ =>
    simp only [beq] at h
    rw [entries_eq_of_beq h]
  | .tagged _ _, .tagged _ _ =>
    simp only [beq, Bool.and_eq_true, beq_iff_eq] at h
    rw [h.1, eq_of_beq h.2]

theorem items_eq_of_beq {a b : List Value} (h : itemsBeq a b = true) : a = b := by
  match a, b with
  | [], [] => rfl
  | _ :: _, _ :: _ =>
    simp only [itemsBeq, Bool.and_eq_true] at h
    rw [eq_of_beq h.1, items_eq_of_beq h.2]

theorem entries_eq_of_beq {a b : List (Value × Value)} (h : entriesBeq a b = true) : a = b := by
  match a, b with
  | [], [] => rfl
  | (_, _) :: _, (_, _) :: _ =>
    simp only [entriesBeq, Bool.and_eq_true] at h
    rw [eq_of_beq h.1.1, eq_of_beq h.1.2, entries_eq_of_beq h.2]

end

mutual

theorem beq_refl (a : Value) : beq a a = true := by
  match a with
  | .null => rfl
  | .bool _ | .int _ | .float _ | .str _ => simp only [beq, beq_self_eq_true]
  | .seq items => simp only [beq, itemsBeq_refl items]
  | .map entries => simp only [beq, entriesBeq_refl entries]
  | .tagged _ v => simp only [beq, beq_self_eq_true, beq_refl v, Bool.and_self]

theorem itemsBeq_refl (a : List Value) : itemsBeq a a = true := by
  match a with
  | [] => rfl
  | v :: r => simp only [itemsBeq, beq_refl v, itemsBeq_refl r, Bool.and_self]

theorem entriesBeq_refl (a : List (Value × Value)) : entriesBeq a a = true := by
  match a with
  | [] => rfl
  | (k, v) :: r => simp only [entriesBeq, beq_refl k, beq_refl v, entriesBeq_refl r, Bool.and_self]

end

instance : DecidableEq Value := fun a b =>
  if h : beq a b = true then .isTrue (eq_of_beq h)
  else .isFalse fun he => h (he ▸ beq_refl a)

mutual

/-- Sameness as keys: mappings do not depend on the order of their entries, and numbers that are not
a number are the same. -/
def same : Value → Value → Bool
  | .float a, .float b => (a.isNaN && b.isNaN) || a.same b
  | .seq a, .seq b => itemsSame a b
  | .map a, .map b => a.length == b.length && entriesAmong a b
  | .tagged s a, .tagged t b => s == t && same a b
  | .null, .null => true
  | .bool a, .bool b => a == b
  | .int a, .int b => a == b
  | .str a, .str b => a == b
  | _, _ => false

/-- Sameness of items in order. -/
def itemsSame : List Value → List Value → Bool
  | [], [] => true
  | a :: r, b :: s => same a b && itemsSame r s
  | _, _ => false

/-- Whether each entry has the same entry among others. -/
def entriesAmong : List (Value × Value) → List (Value × Value) → Bool
  | [], _ => true
  | (k, v) :: r, b => b.any (fun e => same k e.1 && same v e.2) && entriesAmong r b

end

end Value

/-- The texts of the null value. -/
def isNullText (s : String) : Bool := s == "null" || s == "Null" || s == "NULL" || s == "~"

/-- The truth value of a text. -/
def boolOfText? (s : String) : Option Bool :=
  if s == "true" || s == "True" || s == "TRUE" then some true
  else if s == "false" || s == "False" || s == "FALSE" then some false
  else none

/-- A sign may stand in front of digits. -/
def unsign : List Char → List Char
  | '-' :: r => r
  | '+' :: r => r
  | r => r

/-- Digits that start with a superfluous zero are text. -/
def isPaddedDigits (cs : List Char) : Bool :=
  match unsign cs with
  | '0' :: c :: r => (c :: r).all Char.isDigit
  | _ => false

/-- A natural number behind the mark of its base, which a sign may follow only if the number is
negative as a whole. -/
def basedNat? (cs : List Char) : Option Nat :=
  match cs with
  | '0' :: 'x' :: r => Text.natIn? 16 r
  | '0' :: 'o' :: r => Text.natIn? 8 r
  | '0' :: 'b' :: r => Text.natIn? 2 r
  | _ => none

/-- The integer of a text, of any size. -/
def integer? (cs : List Char) : Option Int :=
  let plain (r : List Char) : Option Nat := if isPaddedDigits cs then none else Text.natIn? 10 r
  match cs with
  | '+' :: r => ((basedNat? r).or (plain r)).map Int.ofNat
  | '-' :: r => ((basedNat? r).or (plain r)).map fun n => -(n : Int)
  | r => ((basedNat? r).or (plain r)).map Int.ofNat

/-- The floating-point number of a text; one that overflows is no number. -/
def float? (cs : List Char) : Option Binary64 :=
  let s := String.ofList cs
  let r := match cs with
    | '+' :: r => r
    | r => r
  let u := String.ofList r
  if u == ".inf" || u == ".Inf" || u == ".INF" then some Binary64.infinity
  else if s == "-.inf" || s == "-.Inf" || s == "-.INF" then some Binary64.infinity.neg
  else if s == ".nan" || s == ".NaN" || s == ".NAN" then some Binary64.invalid.neg
  else
    let signed := match cs, r with
      | '+' :: _, '+' :: _ => none
      | '+' :: _, '-' :: _ => none
      | _, r => Decimal.parse? r
    (signed.map Decimal.toBinary64).filter Binary64.isFinite

/-- What reading a scalar can say: a value, or an integer beyond 64 bits, which is refused. -/
def plainValue? (s : String) : Option Value :=
  let cs := s.toList
  if s.isEmpty || isNullText s then some .null
  else match boolOfText? s with
  | some b => some (.bool b)
  | none =>
    match integer? cs with
    | some i =>
      if -2 ^ 63 ≤ i ∧ i < 2 ^ 64 then some (.int i)
      else if -2 ^ 127 ≤ i ∧ i < 2 ^ 128 then none
      else match float? cs with
      | some x => some (.float x)
      | none => some (.str s)
    | none =>
      if isPaddedDigits cs then some (.str s)
      else match float? cs with
      | some x => some (.float x)
      | none => some (.str s)

/-- The value of a scalar, by its tag or else by its form. -/
def scalarValue? (tag : Option String) (style : Style) (s : String) : Option Value :=
  let core (name : String) := tag == some ("tag:yaml.org,2002:" ++ name)
  if core "bool" then (boolOfText? s).map .bool
  else if core "int" then
    match integer? s.toList with
    | some i => if -2 ^ 63 ≤ i ∧ i < 2 ^ 64 then some (.int i) else none
    | none => none
  else if core "float" then (float? s.toList).map .float
  else if core "null" then if isNullText s then some .null else none
  else if style = .plain ∧ tag.all (fun t => t.toList.head? == some '!') then plainValue? s
  else some (.str s)

/-- The name of a tag that is not one of the core tags. -/
def ownTag? (tag : Option String) : Option String :=
  tag.bind fun t => match t.toList with
    | ['!'] => some "!"
    | '!' :: r => some (String.ofList r)
    | _ => none

/-- The most levels of collections. -/
def levelLimit : Nat := 128

/-- Replaying aliases: how many have been followed, failing beyond a hundred an event. -/
abbrev Replay := StateT Nat Option

mutual

/-- The value of a node, with the number of levels that may still be opened. -/
def Node.value (d : Document) : Nat → Bool → Nat → Node → Replay Value
  | 0, _, _, _ => failure
  | fuel + 1, tagged, levels, n =>
    let tag? : Option String := match n with
      | .alias _ => none
      | .scalar tag .. | .sequence tag _ | .mapping tag _ => if tagged then none else ownTag? tag
    match tag?, n with
    | some tag, n => do return .tagged tag (← n.value d fuel true levels)
    | none, .alias number => do
      let followed ← get
      if 100 * d.events < followed + 1 then failure
      set (followed + 1)
      match d.target? number with
      | some n => n.value d fuel false levels
      | none => failure
    | none, .scalar tag style text =>
      match scalarValue? (if tagged then none else tag) style text with
      | some v => return v
      | none => failure
    | none, .sequence _ items =>
      match levels with
      | 0 => failure
      | levels + 1 => do return .seq (← itemValues d fuel levels items)
    | none, .mapping _ entries =>
      match levels with
      | 0 => failure
      | levels + 1 => do return .map (← entryValues d fuel levels [] entries)

/-- The values of items. -/
def itemValues (d : Document) : Nat → Nat → List Node → Replay (List Value)
  | 0, _, _ => failure
  | _ + 1, _, [] => return []
  | fuel + 1, levels, n :: r => do
    let v ← n.value d fuel false levels
    return v :: (← itemValues d fuel levels r)

/-- The entries of a mapping, in order; a key that is there already is refused. -/
def entryValues (d : Document) :
    Nat → Nat → List (Value × Value) → List (Node × Node) → Replay (List (Value × Value))
  | 0, _, _, _ => failure
  | _ + 1, _, done, [] => return done
  | fuel + 1, levels, done, (k, n) :: r => do
    let k ← k.value d fuel false levels
    if done.any (·.1.same k) then failure
    let v ← n.value d fuel false levels
    entryValues d fuel levels (done ++ [(k, v)]) r

end

/-- The fuel that reading a document can use: on each of the levels, all of its events. -/
def Document.fuel (d : Document) : Nat := (levelLimit + 2) * (2 * d.events + 4)

/-- Reads a text as one value; a text without a document is null. -/
def parse? (text : String) : Option Value := do
  match ← document? text with
  | none => return .null
  | some d => do
    let (v, _) ← (d.root.value d d.fuel false levelLimit).run 0
    return v

/-- Reads bytes as one value. -/
def parseBytes? (bytes : ByteArray) : Option Value := (String.fromUTF8? bytes).bind parse?

end ServiceControl.Yaml
