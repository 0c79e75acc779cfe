import ServiceControl.Proofs.Json.Tokens

/-!
# Written values are read back

A value without doubles and faults, whose integers have 64 bits and whose nesting stays within the
limit, is read from its text. What follows a value in a text is a comma, a closing bracket or
nothing, so no part of it is taken for a part of the value. The induction is on the fuel of the
reader, which exceeds the number of bytes: a reader gives the readers of the parts one unit less,
and each part is shorter by the bytes around it.
-/

namespace ServiceControl.Json

open Text

/-! ### Single values -/

theorem skipBlanks_cons {b : UInt8} (h : b ∉ [32, 9, 10, 13]) (r : List UInt8) :
    Term.skipBlanks (b :: r) = b :: r := by
  simp only [List.mem_cons, List.not_mem_nil, or_false, not_or] at h
  exact List.dropWhile_cons_of_neg (by simp [h])

/-- A digit starts a numeral. -/
theorem value?_digit {b : UInt8} (hb : Term.isDigit b = true) (fuel : Nat) (r : List UInt8) :
    Term.value? (fuel + 1) (b :: r) = Term.numeral? false (b :: r) := by
  have hne {x : UInt8} (hx : Term.isDigit x = false) : b ≠ x := by
    rintro rfl
    rw [hb] at hx
    cases hx
  have hblank : b ∉ [32, 9, 10, 13] := by
    simp only [List.mem_cons, List.not_mem_nil, or_false, not_or]
    exact ⟨hne rfl, hne rfl, hne rfl, hne rfl⟩
  rw [Term.value?, skipBlanks_cons hblank]
  split
  · next h => exact absurd (List.cons.inj h).1 (hne rfl)
  · next h => exact absurd (List.cons.inj h).1 (hne rfl)
  · next h => exact absurd (List.cons.inj h).1 (hne rfl)
  · next h => exact absurd (List.cons.inj h).1 (hne rfl)
  · next h => exact absurd (List.cons.inj h).1 (hne rfl)
  · next h => exact absurd (List.cons.inj h).1 (hne rfl)
  · next h => exact absurd (List.cons.inj h).1 (hne rfl)
  · rfl

/-- An integer of 64 bits reads back. -/
theorem value?_toString {i : Int} (hlow : -2 ^ 63 ≤ i) (hhigh : i < 2 ^ 64) {r : List UInt8}
    (hr : EndsValue r) (fuel depth : Nat) :
    ∃ t, Term.value? (fuel + 1) (bytesOf (toString i).toList ++ r) = some (t, r) ∧
      t.toJson depth = .int i := by
  have htext : toString i = if 0 ≤ i then i.toNat.repr else "-" ++ (-i).toNat.repr := Int.repr_eq_if
  rw [htext]
  split
  · next hi =>
    obtain ⟨digits, hvalue, hread⟩ := numeral?_repr false i.toNat hr
    obtain ⟨b, bs, hbytes⟩ := List.exists_cons_of_ne_nil (bytesOf_repr_ne_nil i.toNat)
    have hb : Term.isDigit b = true := isDigit_of_mem_bytesOf_repr (hbytes ▸ List.mem_cons_self)
    have hword : ¬ Numeral.wordMax < i.toNat := by
      rw [Numeral.wordMax]
      omega
    have hnumber : Numeral.number? ⟨false, digits, none, none⟩ = some (.int i) := by
      simp [Numeral.number?, hvalue, hword, Int.max_eq_left hi]
    refine ⟨.number ⟨false, digits, none, none⟩, ?_, ?_⟩
    · rw [hbytes, List.cons_append, value?_digit hb, ← List.cons_append, ← hbytes]
      exact hread
    · rw [Term.toJson, hnumber]
  · next hi =>
    obtain ⟨digits, hvalue, hread⟩ := numeral?_repr true (-i).toNat hr
    have hword : ¬ Numeral.wordMax < (-i).toNat := by
      rw [Numeral.wordMax]
      omega
    have hnumber : Numeral.number? ⟨true, digits, none, none⟩ = some (.int i) := by
      have hrange : 0 < (-i).toNat ∧ (-i).toNat ≤ 2 ^ 63 := by omega
      have hback : -((-i).toNat : Int) = i := by omega
      simp only [Numeral.number?, hvalue, hword, decide_false, Option.isSome_none, Bool.or_false,
        Bool.false_eq_true, if_false, Bool.not_true, hrange, and_self, if_true, hback]
    refine ⟨.number ⟨true, digits, none, none⟩, ?_, ?_⟩
    · rw [String.toList_append, bytesOf_append, List.append_assoc]
      exact hread
    · rw [Term.toJson, hnumber]

/-! ### Whole values -/

mutual

/-- A value that is written as it is: integers have 64 bits, there are no doubles and no faults, and
nesting stays within a limit. -/
def IsExact (depth : Nat) : Json → Prop
  | .null | .bool _ | .str _ => True
  | .int i => -2 ^ 63 ≤ i ∧ i < 2 ^ 64
  | .float _ | .fault => False
  | .arr items => match depth with
    | 0 => False
    | depth + 1 => AreExact depth items
  | .obj fields => match depth with
    | 0 => False
    | depth + 1 => FieldsExact depth fields

/-- Every item is exact. -/
def AreExact (depth : Nat) : List Json → Prop
  | [] => True
  | j :: r => IsExact depth j ∧ AreExact depth r

/-- Every field's value is exact. -/
def FieldsExact (depth : Nat) : List (String × Json) → Prop
  | [] => True
  | (_, j) :: r => IsExact depth j ∧ FieldsExact depth r

end

/-- Items are exact if each of them is. -/
theorem areExact_iff {depth : Nat} {items : List Json} :
    AreExact depth items ↔ ∀ j ∈ items, IsExact depth j := by
  induction items with
  | nil => simp [AreExact]
  | cons j items ih => simp [AreExact, ih]

/-- Fields are exact if each of their values is. -/
theorem fieldsExact_iff {depth : Nat} {fields : List (String × Json)} :
    FieldsExact depth fields ↔ ∀ f ∈ fields, IsExact depth f.2 := by
  induction fields with
  | nil => simp [FieldsExact]
  | cons f fields ih => simp [FieldsExact, ih]

theorem bytesOf_quoted (s : String) :
    bytesOf (quoted s).toList = 34 :: (bytesOf (s.toList.flatMap escaped) ++ [34]) := by
  rw [quoted, String.toList_ofList, ← List.singleton_append, bytesOf_append, bytesOf_append]
  rfl

/-- A text reads back. -/
theorem value?_quoted (s : String) (r : List UInt8) (fuel depth : Nat) :
    ∃ t, Term.value? (fuel + 1) (bytesOf (quoted s).toList ++ r) = some (t, r) ∧
      t.toJson depth = .str s := by
  refine ⟨.str (s.toList.flatMap piecesOf), ?_, ?_⟩
  · have hread := string?_flatMap_escaped s.toList r
    rw [bytesOf_quoted, List.cons_append, List.append_assoc, List.singleton_append, Term.value?,
      skipBlanks_cons (by decide)]
    simp only [hread, Option.map_some]
  · simp only [Term.toJson, text?_flatMap_piecesOf]

/-- A written value does not begin with a blank or a bracket that closes an array. -/
theorem exists_bytesOf_compact {depth : Nat} {j : Json} (h : IsExact depth j) :
    ∃ b bs, bytesOf j.compact.toList = b :: bs ∧ b ∉ [32, 9, 10, 13, 93] := by
  cases j with
  | null => exact ⟨_, _, rfl, by decide⟩
  | bool b => cases b <;> exact ⟨_, _, rfl, by decide⟩
  | int i =>
    have htext : compact (.int i) = if 0 ≤ i then i.toNat.repr else "-" ++ (-i).toNat.repr :=
      Int.repr_eq_if
    rw [htext]
    split
    · obtain ⟨b, bs, hbytes⟩ := List.exists_cons_of_ne_nil (bytesOf_repr_ne_nil i.toNat)
      have hb : Term.isDigit b = true := isDigit_of_mem_bytesOf_repr (hbytes ▸ List.mem_cons_self)
      have hdigit : ([32, 9, 10, 13, 93] : List UInt8).any Term.isDigit = false := by decide
      refine ⟨b, bs, hbytes, fun hmem => ?_⟩
      exact List.any_eq_false.mp hdigit b hmem hb
    · rw [String.toList_append, bytesOf_append]
      exact ⟨_, _, rfl, by decide⟩
  | float x | fault => cases h
  | str s => exact ⟨34, _, bytesOf_quoted s, by decide⟩
  | arr items =>
    rw [compact, String.append_assoc, String.toList_append, bytesOf_append]
    exact ⟨_, _, rfl, by decide⟩
  | obj fields =>
    rw [compact, String.append_assoc, String.toList_append, bytesOf_append]
    exact ⟨_, _, rfl, by decide⟩

/-- The items between the brackets of an array. -/
def itemBytes (items : List Json) : List UInt8 :=
  bytesOf (",".intercalate (compactItems items)).toList

theorem itemBytes_cons_cons (j k : Json) (items : List Json) :
    itemBytes (j :: k :: items) = bytesOf j.compact.toList ++ 44 :: itemBytes (k :: items) := by
  simp only [itemBytes, compactItems, String.intercalate_cons_cons, String.toList_append,
    bytesOf_append, List.append_assoc]
  rfl

theorem itemBytes_singleton (j : Json) : itemBytes [j] = bytesOf j.compact.toList := by
  simp only [itemBytes, compactItems, String.intercalate_singleton]

/-- The fields between the braces of an object. -/
def fieldBytes (fields : List (String × Json)) : List UInt8 :=
  bytesOf (",".intercalate (compactFields fields)).toList

theorem fieldBytes_singleton (k : String) (j : Json) :
    fieldBytes [(k, j)] = bytesOf (quoted k).toList ++ 58 :: bytesOf j.compact.toList := by
  simp only [fieldBytes, compactFields, String.intercalate_singleton, String.toList_append,
    bytesOf_append, List.append_assoc]
  rfl

theorem fieldBytes_cons_cons (k : String) (j : Json) (f : String × Json)
    (fields : List (String × Json)) :
    fieldBytes ((k, j) :: f :: fields) =
      bytesOf (quoted k).toList ++
        58 :: (bytesOf j.compact.toList ++ 44 :: fieldBytes (f :: fields)) := by
  obtain ⟨k', j'⟩ := f
  simp only [fieldBytes, compactFields, String.intercalate_cons_cons, String.toList_append,
    bytesOf_append, List.append_assoc]
  rfl

theorem exists_itemBytes {depth : Nat} {j : Json} (h : IsExact depth j) (items : List Json) :
    ∃ b bs, itemBytes (j :: items) = b :: bs ∧ b ∉ [32, 9, 10, 13, 93] := by
  obtain ⟨b, bs, hbytes, hb⟩ := exists_bytesOf_compact h
  cases items with
  | nil => exact ⟨b, bs, by rw [itemBytes_singleton, hbytes], hb⟩
  | cons k items => exact ⟨b, _, by rw [itemBytes_cons_cons, hbytes, List.cons_append], hb⟩

theorem exists_fieldBytes (f : String × Json) (fields : List (String × Json)) :
    ∃ bs, fieldBytes (f :: fields) = 34 :: bs := by
  obtain ⟨k, j⟩ := f
  cases fields with
  | nil => exact ⟨_, by rw [fieldBytes_singleton, bytesOf_quoted, List.cons_append]⟩
  | cons f fields => exact ⟨_, by rw [fieldBytes_cons_cons, bytesOf_quoted, List.cons_append]⟩

/-- An array with items is read item by item. -/
theorem value?_arr {b : UInt8} (hb : b ∉ [32, 9, 10, 13, 93]) (fuel : Nat) (r : List UInt8) :
    Term.value? (fuel + 1) (91 :: b :: r) =
      (Term.items? fuel (b :: r)).map fun (ts, r) => (.arr ts, r) := by
  have hblank : b ∉ [32, 9, 10, 13] := fun hmem => hb (List.mem_append_left [93] hmem)
  rw [Term.value?, skipBlanks_cons (by decide)]
  simp only [skipBlanks_cons hblank]
  split
  · next h => exact absurd (List.cons.inj h).1 (fun heq => hb (by rw [heq]; decide))
  · rfl

/-- An object with fields is read field by field. -/
theorem value?_obj (fuel : Nat) (r : List UInt8) :
    Term.value? (fuel + 1) (123 :: 34 :: r) =
      (Term.fields? fuel (34 :: r)).map fun (fs, r) => (.obj fs, r) := by
  rw [Term.value?, skipBlanks_cons (by decide)]
  simp only [skipBlanks_cons (b := 34) (by decide)]
  rfl

/-- Exact values read back with the given fuel, whatever follows that ends them. -/
def ValuesReadBack (fuel : Nat) : Prop :=
  ∀ {depth : Nat} {j : Json} {r : List UInt8}, IsExact depth j → EndsValue r →
    (bytesOf j.compact.toList).length < fuel →
    ∃ t, Term.value? fuel (bytesOf j.compact.toList ++ r) = some (t, r) ∧ t.toJson depth = j

/-- Exact items read back with the given fuel. -/
def ItemsReadBack (fuel : Nat) : Prop :=
  ∀ {depth : Nat} {j : Json} {items : List Json} (r : List UInt8), AreExact depth (j :: items) →
    (itemBytes (j :: items)).length + 1 < fuel →
    ∃ ts, Term.items? fuel (itemBytes (j :: items) ++ 93 :: r) = some (ts, r) ∧
      itemsToJson depth ts = j :: items

/-- Exact fields read back with the given fuel. -/
def FieldsReadBack (fuel : Nat) : Prop :=
  ∀ {depth : Nat} {f : String × Json} {fields : List (String × Json)} (r : List UInt8),
    FieldsExact depth (f :: fields) → (fieldBytes (f :: fields)).length + 1 < fuel →
    ∃ fs, Term.fields? fuel (fieldBytes (f :: fields) ++ 125 :: r) = some (fs, r) ∧
      fieldsToJson? depth fs = some (f :: fields)

theorem ValuesReadBack.succ {fuel : Nat} (hitems : ItemsReadBack fuel)
    (hfields : FieldsReadBack fuel) : ValuesReadBack (fuel + 1) := by
  intro depth j r h hr hfuel
  cases j with
  | null => exact ⟨.null, rfl, rfl⟩
  | bool b => cases b <;> exact ⟨.bool _, rfl, rfl⟩
  | int i => exact value?_toString h.1 h.2 hr fuel depth
  | float _ | fault => cases h
  | str s => exact value?_quoted s r fuel depth
  | arr items =>
    cases depth with
    | zero => cases h
    | succ depth =>
      cases items with
      | nil => exact ⟨.arr [], rfl, rfl⟩
      | cons j items =>
        have hbytes : bytesOf (compact (.arr (j :: items))).toList =
            91 :: (itemBytes (j :: items) ++ [93]) := by
          rw [compact, String.toList_append, String.toList_append, bytesOf_append, bytesOf_append]
          rfl
        rw [hbytes] at hfuel ⊢
        simp only [List.length_cons, List.length_append, List.length_nil] at hfuel
        obtain ⟨ts, hread, hjson⟩ := hitems r h (by omega)
        obtain ⟨b, bs, hfirst, hb⟩ := exists_itemBytes h.1 items
        refine ⟨.arr ts, ?_, by rw [Term.toJson, hjson]⟩
        rw [List.cons_append, List.append_assoc, List.singleton_append]
        rw [hfirst, List.cons_append] at hread ⊢
        rw [value?_arr hb, hread, Option.map_some]
  | obj fields =>
    cases depth with
    | zero => cases h
    | succ depth =>
      cases fields with
      | nil => exact ⟨.obj [], rfl, rfl⟩
      | cons f fields =>
        have hbytes : bytesOf (compact (.obj (f :: fields))).toList =
            123 :: (fieldBytes (f :: fields) ++ [125]) := by
          rw [compact, String.toList_append, String.toList_append, bytesOf_append, bytesOf_append]
          rfl
        rw [hbytes] at hfuel ⊢
        simp only [List.length_cons, List.length_append, List.length_nil] at hfuel
        obtain ⟨fs, hread, hjson⟩ := hfields r h (by omega)
        obtain ⟨bs, hfirst⟩ := exists_fieldBytes f fields
        refine ⟨.obj fs, ?_, by simp only [Term.toJson, hjson]⟩
        rw [List.cons_append, List.append_assoc, List.singleton_append]
        rw [hfirst, List.cons_append] at hread ⊢
        rw [value?_obj, hread, Option.map_some]

theorem ItemsReadBack.succ {fuel : Nat} (hvalues : ValuesReadBack fuel)
    (hitems : ItemsReadBack fuel) : ItemsReadBack (fuel + 1) := by
  intro depth j items r h hfuel
  cases items with
  | nil =>
    rw [itemBytes_singleton] at hfuel ⊢
    obtain ⟨t, hread, hjson⟩ :=
      hvalues (r := 93 :: r) h.1 (.inr ⟨r, .inr (.inl rfl)⟩) (by omega)
    refine ⟨[t], ?_, ?_⟩
    · simp only [Term.items?, hread, bind, Option.bind_some, skipBlanks_cons (b := 93) (by decide),
        pure]
    · rw [itemsToJson, itemsToJson, hjson]
  | cons k items =>
    rw [itemBytes_cons_cons] at hfuel ⊢
    simp only [List.length_append, List.length_cons] at hfuel
    obtain ⟨t, hread, hjson⟩ := hvalues (r := 44 :: (itemBytes (k :: items) ++ 93 :: r)) h.1
      (.inr ⟨_, .inl rfl⟩) (by omega)
    obtain ⟨ts, hreads, hjsons⟩ := hitems r h.2 (by omega)
    refine ⟨t :: ts, ?_, ?_⟩
    · simp only [List.append_assoc, List.cons_append, Term.items?, hread, bind, Option.bind_some,
        skipBlanks_cons (b := 44) (by decide), hreads, pure]
    · rw [itemsToJson, hjson, hjsons]

theorem FieldsReadBack.succ {fuel : Nat} (hvalues : ValuesReadBack fuel)
    (hfields : FieldsReadBack fuel) : FieldsReadBack (fuel + 1) := by
  intro depth f fields r h hfuel
  obtain ⟨k, j⟩ := f
  have hname (r : List UInt8) := string?_flatMap_escaped k.toList r
  cases fields with
  | nil =>
    rw [fieldBytes_singleton, bytesOf_quoted] at hfuel ⊢
    simp only [List.length_append, List.length_cons] at hfuel
    obtain ⟨t, hread, hjson⟩ :=
      hvalues (r := 125 :: r) h.1 (.inr ⟨r, .inr (.inr rfl)⟩) (by omega)
    refine ⟨[(k.toList.flatMap piecesOf, t)], ?_, ?_⟩
    · simp only [List.append_assoc, List.cons_append, List.nil_append, Term.fields?,
        skipBlanks_cons (b := 34) (by decide), hname, hread, bind, Option.bind_some,
        skipBlanks_cons (b := 58) (by decide), skipBlanks_cons (b := 125) (by decide), pure]
    · simp only [fieldsToJson?, text?_flatMap_piecesOf, hjson, bind, Option.bind_some, pure]
  | cons f fields =>
    rw [fieldBytes_cons_cons, bytesOf_quoted] at hfuel ⊢
    simp only [List.length_append, List.length_cons] at hfuel
    obtain ⟨t, hread, hjson⟩ := hvalues (r := 44 :: (fieldBytes (f :: fields) ++ 125 :: r)) h.1
      (.inr ⟨_, .inl rfl⟩) (by omega)
    obtain ⟨fs, hreads, hjsons⟩ := hfields r h.2 (by omega)
    refine ⟨(k.toList.flatMap piecesOf, t) :: fs, ?_, ?_⟩
    · simp only [List.append_assoc, List.cons_append, List.nil_append, Term.fields?,
        skipBlanks_cons (b := 34) (by decide), hname, hread, bind, Option.bind_some,
        skipBlanks_cons (b := 58) (by decide), skipBlanks_cons (b := 44) (by decide), hreads, pure]
    · simp only [fieldsToJson?, text?_flatMap_piecesOf, hjson, hjsons, bind, Option.bind_some, pure]

/-- Exact values, items and fields read back if there is fuel for their bytes. -/
theorem readBack (fuel : Nat) : ValuesReadBack fuel ∧ ItemsReadBack fuel ∧ FieldsReadBack fuel := by
  induction fuel with
  | zero =>
    exact ⟨fun _ _ hfuel => absurd hfuel (Nat.not_lt_zero _),
      fun _ _ hfuel => absurd hfuel (Nat.not_lt_zero _),
      fun _ _ hfuel => absurd hfuel (Nat.not_lt_zero _)⟩
  | succ fuel ih =>
    obtain ⟨hvalues, hitems, hfields⟩ := ih
    exact ⟨ValuesReadBack.succ hitems hfields, ItemsReadBack.succ hvalues hitems,
      FieldsReadBack.succ hvalues hfields⟩

/-- An exact value is read from its text. -/
theorem parse?_compact {j : Json} (h : IsExact depthLimit j) :
    parse? j.compact.toUTF8 = some j := by
  have hbytes : j.compact.toUTF8.toList = bytesOf j.compact.toList := toList_toUTF8 _
  have hsize : j.compact.toUTF8.size = (bytesOf j.compact.toList).length := by
    rw [toUTF8_eq, List.size_toByteArray]
  obtain ⟨t, hread, hjson⟩ := (readBack (j.compact.toUTF8.size + 1)).1 (r := []) h
    (.inl rfl) (by omega)
  rw [List.append_nil] at hread
  have hterm : Term.parse? j.compact.toUTF8 = some t := by
    simp only [Term.parse?, hbytes, hread]
    rfl
  rw [parse?, hterm, Option.map_some, hjson]

end ServiceControl.Json
