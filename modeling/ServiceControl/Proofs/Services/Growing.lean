import Mathlib.Data.List.Forall2
import ServiceControl.Proofs.Services.Records

/-!
# Documents that grow

A services document may say more than is declared. Whatever names are added to the mappings of its
records, anywhere and at once, and whatever values they have as long as these hold no tags, the
document is read as before. Where a record is read by its own names, other entries are passed over.
Where a part is embedded, they are gathered with the entries of the part and passed over there, so
that a declared field is found by the record or the part that declares it, and by that one only.
-/

namespace ServiceControl

/-- Computations that give related results, or none, go on to the same result if what follows takes
related values to the same result. -/
theorem bind_eq_of_rel {α β γ : Type*} {R : α → β → Prop} {x : Option α} {y : Option β}
    {f : α → Option γ} {g : β → Option γ} (h : Option.Rel R x y) (hfg : ∀ a b, R a b → f a = g b) :
    x.bind f = y.bind g := by
  cases h with
  | none => rfl
  | some hab => exact hfg _ _ hab

/-- A computation gives a result that is related to itself, or none. -/
theorem rel_self {α : Type*} {R : α → α → Prop} (hrefl : ∀ a, R a a) (x : Option α) :
    Option.Rel R x x := by
  cases x with
  | none => exact .none
  | some a => exact .some (hrefl a)

/-- Computations that give related results, or none, go on to related results if what follows takes
related values to related results. -/
theorem rel_bind {α β γ δ : Type*} {R : α → β → Prop} {S : γ → δ → Prop} {x : Option α}
    {y : Option β} {f : α → Option γ} {g : β → Option δ} (h : Option.Rel R x y)
    (hfg : ∀ a b, R a b → Option.Rel S (f a) (g b)) : Option.Rel S (x.bind f) (y.bind g) := by
  cases h with
  | none => exact .none
  | some hab => exact hfg _ _ hab

/-- Related items that are read alike are read alike one after another. -/
theorem mapM_eq_of_forall₂ {α β : Type} {R : α → α → Prop} {f : α → Option β} {l l' : List α}
    (h : List.Forall₂ R l l') (hf : ∀ a b, R a b → f b = f a) : l'.mapM f = l.mapM f := by
  induction h with
  | nil => rfl
  | cons hab _ ih => rw [List.mapM_cons, List.mapM_cons, hf _ _ hab, ih]

namespace Services

open Yaml (Value)

/-! ### How documents grow -/

/-- How the entries of a record grow. Those that are there stay, or the value grows as what is below
the name. New ones stand anywhere; the name of such an entry is none of the declared ones, and there
are no tags in its value. -/
inductive EntriesGrow (names : List String) (below : String → Value → Value → Prop) :
    List (Value × Value) → List (Value × Value) → Prop where
  | nil : EntriesGrow names below [] []
  | old {k v w a b} : (v = w ∨ ∃ name, untagged k = .str name ∧ below name v w) →
      EntriesGrow names below a b → EntriesGrow names below ((k, v) :: a) ((k, w) :: b)
  | new {name v a b} : name ∉ names → tagFree v = true → EntriesGrow names below a b →
      EntriesGrow names below a ((.str name, v) :: b)

/-- How a value grows: it stays, or its items or its entries grow, also below tags. -/
inductive Grows (items : List Value → List Value → Prop)
    (entries : List (Value × Value) → List (Value × Value) → Prop) : Value → Value → Prop where
  | same (v : Value) : Grows items entries v v
  | seq {a b} : items a b → Grows items entries (.seq a) (.seq b)
  | map {a b} : entries a b → Grows items entries (.map a) (.map b)
  | tagged {tag v w} : Grows items entries v w → Grows items entries (.tagged tag v) (.tagged tag w)

/-- How a record with declared names grows. -/
def RecordGrows (names : List String) (below : String → Value → Value → Prop) :
    Value → Value → Prop :=
  Grows Eq (EntriesGrow names below)

/-- How hints about batches grow. -/
def BatchGrows : Value → Value → Prop := RecordGrows ["size", "timeoutsec"] fun _ _ _ => False

/-- How an entry grows. -/
def EntryGrows : Value → Value → Prop :=
  RecordGrows (["id", "batchparams"] ++ ["kind", "params"]) fun name v w =>
    name = "batchparams" ∧ BatchGrows v w

/-- How a list of entries grows: each of its entries does. -/
def EntryListGrows : Value → Value → Prop := Grows (List.Forall₂ EntryGrows) Eq

/-- How the lists of adapters grow. -/
def ListsGrow (name : String) (v w : Value) : Prop :=
  name ∈ ["checkers", "reporters"] ∧ EntryListGrows v w

/-- How the adapters of a scope grow. -/
def AdaptersGrow : Value → Value → Prop := RecordGrows ["checkers", "reporters"] ListsGrow

/-- How a peer grows. -/
def PeerGrows : Value → Value → Prop :=
  RecordGrows (["serviceid"] ++ ["checkers", "reporters"]) ListsGrow

/-- How a map grows: each of its values does. -/
def MapGrows (R : Value → Value → Prop) : Value → Value → Prop :=
  Grows Eq (List.Forall₂ fun x y => x.1 = y.1 ∧ R x.2 y.2)

/-- How a service grows. -/
def ServiceGrows : Value → Value → Prop :=
  RecordGrows ["serviceid", "self", "ingress", "egress", "consumers", "producers"] fun name v w =>
    (name ∈ ["self", "ingress", "egress"] ∧ AdaptersGrow v w) ∨
      (name ∈ ["consumers", "producers"] ∧ MapGrows PeerGrows v w)

/-- How a document grows. -/
def DocumentGrows : Value → Value → Prop := MapGrows ServiceGrows

/-! ### Values that grew -/

section

variable {items : List Value → List Value → Prop}
  {entries : List (Value × Value) → List (Value × Value) → Prop} {v w : Value}

/-- What is read of a value that grew is what grew. -/
theorem Grows.view (h : Grows items entries v w) (o : Origin) :
    Grows items entries (o.view v) (o.view w) := by
  cases o with
  | gathered => exact h
  | direct =>
    induction h with
    | same v => exact .same _
    | seq hab => exact .seq hab
    | map hab => exact .map hab
    | tagged _ ih => exact ih

/-- The items of a value that grew are those that grew. -/
theorem Grows.items? (h : Grows items entries v w) (hrefl : ∀ a, items a a) (o : Origin) :
    Option.Rel items (items? o v) (items? o w) := by
  have hview := h.view o
  unfold Services.items?
  generalize o.view v = v' at hview
  generalize o.view w = w' at hview
  cases hview with
  | same => exact rel_self hrefl _
  | seq hab => cases o <;> exact .some hab
  | map | tagged => cases o <;> exact .none

/-- The entries of a value that grew are those that grew. -/
theorem Grows.entries? (h : Grows items entries v w) (hrefl : ∀ a, entries a a) (o : Origin) :
    Option.Rel entries (entries? o v) (entries? o w) := by
  have hview := h.view o
  unfold Services.entries?
  generalize o.view v = v' at hview
  generalize o.view w = w' at hview
  cases hview with
  | same => exact rel_self hrefl _
  | map hab => cases o <;> exact .some hab
  | seq | tagged => cases o <;> exact .none

/-- There are tags in a value that grew exactly if there were tags before. -/
theorem Grows.tagFree_eq (h : Grows items entries v w)
    (hitems : ∀ a b, items a b → itemsTagFree b = itemsTagFree a)
    (hentries : ∀ a b, entries a b → entriesTagFree b = entriesTagFree a) :
    tagFree w = tagFree v := by
  cases h with
  | same => rfl
  | seq hab => exact hitems _ _ hab
  | map hab => exact hentries _ _ hab
  | tagged => rfl

end

/-! ### Records that grew -/

/-- How the declared fields grow: their values stay, or grow as what is below their names. -/
def FieldsGrow (below : String → Value → Value → Prop) : Fields → Fields → Prop :=
  List.Forall₂ fun f g => f.1 = g.1 ∧ (f.2 = g.2 ∨ below f.1 f.2 g.2)

section

variable {names own inner : List String} {below : String → Value → Value → Prop}
  {a b : List (Value × Value)} {f g : Fields} {v w : Value} {name : String}

theorem EntriesGrow.refl (a : List (Value × Value)) : EntriesGrow names below a a := by
  induction a with
  | nil => exact .nil
  | cons e rest ih => exact .old (.inl rfl) ih

theorem FieldsGrow.refl (f : Fields) : FieldsGrow below f f :=
  List.forall₂_same.mpr fun _ _ => ⟨rfl, .inl rfl⟩

/-- There are tags in what grew exactly if there were tags before. -/
theorem EntriesGrow.tagFree_eq (h : EntriesGrow names below a b)
    (hbelow : ∀ name v w, below name v w → tagFree w = tagFree v) :
    entriesTagFree b = entriesTagFree a := by
  induction h with
  | nil => rfl
  | @old k v w a b hvw _ ih =>
    have htags : tagFree w = tagFree v := by
      rcases hvw with rfl | ⟨name, -, hvw⟩
      · rfl
      · exact hbelow name v w hvw
    simp only [entriesTagFree, ih, htags]
  | new _ hv _ ih => simp only [entriesTagFree, tagFree, hv, ih, Bool.true_and]

/-- A value that grew below a key is read below the name that the key is read as. -/
theorem below_of_key? {k : Value} {o : Origin} {key : Key} (hkey : key? o k = some key)
    (hvw : v = w ∨ ∃ name, untagged k = .str name ∧ below name v w) :
    v = w ∨ ∃ name, key = .name name ∧ below name v w := by
  refine hvw.imp_right ?_
  rintro ⟨name, hk, hvw⟩
  refine ⟨name, ?_, hvw⟩
  cases o with
  | direct =>
    simp only [key?, Origin.view, hk, Option.some.injEq] at hkey
    exact hkey.symm
  | gathered =>
    cases k with
    | str s =>
      obtain rfl := Value.str.inj hk
      simp only [key?_str, Option.some.injEq] at hkey
      exact hkey.symm
    | tagged tag k => simp [key?, Origin.view] at hkey
    | _ => cases hk

/-- A field that is gathered is passed on if an embedded part declares its name. -/
theorem FieldsGrow.ofNames_cons (h : FieldsGrow below (ofNames names f) (ofNames names g))
    (hvw : v = w ∨ below name v w) :
    FieldsGrow below (ofNames names ((name, v) :: f)) (ofNames names ((name, w) :: g)) := by
  by_cases hname : name ∈ names
  · rw [ofNames_cons_of_mem hname, ofNames_cons_of_mem hname]
    exact .cons ⟨rfl, hvw⟩ h
  · rwa [ofNames_cons_of_notMem hname, ofNames_cons_of_notMem hname]

/-- A field is added to fields that grew if it is added to those that were there. -/
theorem FieldsGrow.addField? (h : FieldsGrow below f g) (hvw : v = w ∨ below name v w) :
    Option.Rel (FieldsGrow below) (addField? name v f) (addField? name w g) := by
  have hany : (g.any fun x => x.1 == name) = f.any fun x => x.1 == name := by
    induction h with
    | nil => rfl
    | cons hfg _ ih => rw [List.any_cons, List.any_cons, ih, hfg.1]
  rw [Services.addField?, Services.addField?, hany]
  split
  · exact .none
  · exact .some (.cons ⟨rfl, hvw⟩ h)

/-- The declared fields of entries that grew are those that grew. -/
theorem EntriesGrow.recordEntries? (h : EntriesGrow names below a b) (o : Origin) :
    Option.Rel (FieldsGrow below) (recordEntries? names o a) (recordEntries? names o b) := by
  induction h with
  | nil => exact .some .nil
  | @old k v w a b hvw _ ih =>
    simp only [Services.recordEntries?, bind]
    cases hkey : key? o k with
    | none => exact .none
    | some key =>
      simp only [Option.bind_some]
      refine rel_bind ih fun f g hfg => ?_
      rcases below_of_key? hkey hvw with rfl | ⟨name, rfl, hvw⟩
      · split
        · exact hfg.addField? (.inl rfl)
        · exact .some hfg
      · by_cases hname : name ∈ names
        · simp only [hname, if_true]
          exact hfg.addField? (.inr hvw)
        · simp only [hname, if_false]
          exact .some hfg
  | @new name v a b hname hv _ ih =>
    simpa only [Services.recordEntries?, key?_str, bind, Option.bind_some, hname, if_false,
      Option.bind_fun_some] using ih

/-- The declared fields of a record that grew are those that grew. -/
theorem RecordGrows.record? (h : RecordGrows names below v w) (o : Origin) :
    Option.Rel (FieldsGrow below) (record? names o v) (record? names o w) := by
  have hentries : Option.Rel (FieldsGrow below)
      ((Services.entries? o v).bind (Services.recordEntries? names o))
      ((Services.entries? o w).bind (Services.recordEntries? names o)) :=
    rel_bind (h.entries? EntriesGrow.refl o) fun _ _ hab => hab.recordEntries? o
  cases h with
  | same => exact rel_self FieldsGrow.refl _
  | seq hab => exact hab ▸ rel_self FieldsGrow.refl _
  | map | tagged => cases o <;> exact hentries

/-- The fields of an embedding mapping that grew, and those that it gathers for the embedded part,
are those that grew. -/
theorem EntriesGrow.splitEntries? (h : EntriesGrow (own ++ inner) below a b)
    (hbelow : ∀ name v w, below name v w → tagFree w = tagFree v) (o : Origin) :
    Option.Rel
      (fun x y => FieldsGrow below x.1 y.1 ∧
        FieldsGrow below (ofNames inner x.2) (ofNames inner y.2))
      (splitEntries? own o a) (splitEntries? own o b) := by
  induction h with
  | nil => exact .some ⟨.nil, .nil⟩
  | @old k v w a b hvw _ ih =>
    simp only [Services.splitEntries?, bind]
    cases hkey : key? o k with
    | none => exact .none
    | some key =>
      simp only [Option.bind_some]
      refine rel_bind ih fun x y hxy => ?_
      cases key with
      | place i => exact .some hxy
      | name s =>
        have hvalue : v = w ∨ below s v w := by
          rcases below_of_key? hkey hvw with heq | ⟨name, hname, hvw⟩
          · exact .inl heq
          · exact .inr (Key.name.inj hname ▸ hvw)
        have htags : tagFree w = tagFree v := by
          rcases hvalue with rfl | hvw
          · rfl
          · exact hbelow s v w hvw
        by_cases hown : s ∈ own
        · simp only [hown, if_true]
          exact rel_bind (hxy.1.addField? hvalue) fun f g hfg => .some ⟨hfg, hxy.2⟩
        · simp only [hown, if_false, htags]
          split
          · exact .some ⟨hxy.1, hxy.2.ofNames_cons hvalue⟩
          · exact .none
  | @new name v a b hname hv _ ih =>
    obtain ⟨hown, hinner⟩ := not_or.mp (hname ∘ List.mem_append.mpr)
    simp only [Services.splitEntries?, key?_str, bind, Option.bind_some, hown, if_false, hv,
      if_true]
    rw [← Option.bind_fun_some (Services.splitEntries? own o a)]
    refine rel_bind ih fun x y hxy => .some ⟨hxy.1, ?_⟩
    rw [ofNames_cons_of_notMem hinner]
    exact hxy.2

/-- An embedded part is read from fields with its names alone. -/
theorem embedded?_ofNames (names : List String) (f : Fields) :
    embedded? names (ofNames names f) = embedded? names f := by
  induction f with
  | nil => rfl
  | cons x rest ih =>
    by_cases hname : x.1 ∈ names
    · simp only [ofNames_cons_of_mem hname, embedded?, ih]
    · simp only [ofNames_cons_of_notMem hname, embedded?, ih, hname, if_false, bind,
        Option.bind_fun_some]

/-- The declared fields of an embedded part that grew are those that grew. -/
theorem FieldsGrow.embedded? (h : FieldsGrow below (ofNames names f) (ofNames names g)) :
    Option.Rel (FieldsGrow below) (embedded? names f) (embedded? names g) := by
  rw [← embedded?_ofNames names f, ← embedded?_ofNames names g]
  generalize ofNames names f = f' at h
  generalize ofNames names g = g' at h
  induction h with
  | nil => exact .some .nil
  | @cons x y f g hxy _ ih =>
    simp only [Services.embedded?, ← hxy.1, bind]
    refine rel_bind ih fun f g hfg => ?_
    split
    · exact hfg.addField? hxy.2
    · exact .some hfg

/-- A field is read alike from fields that grew, if what grew below its name is. -/
theorem FieldsGrow.field_eq {α : Type} {default : α} {read : Value → Option α}
    (h : FieldsGrow below f g) (hread : ∀ v w, below name v w → read w = read v) :
    field g name default read = field f name default read := by
  induction h with
  | nil => rfl
  | @cons x y f g hxy _ ih =>
    simp only [field, List.find?_cons, ← hxy.1] at ih ⊢
    cases heq : x.1 == name with
    | false => exact ih
    | true =>
      show read y.2 = read x.2
      rcases hxy.2 with hvalue | hvw
      · rw [hvalue]
      · exact hread _ _ (eq_of_beq heq ▸ hvw)

/-- The fields of an embedding mapping that grew are those that grew. -/
theorem RecordGrows.split? (h : RecordGrows (own ++ inner) below v w)
    (hbelow : ∀ name v w, below name v w → tagFree w = tagFree v) (o : Origin) :
    Option.Rel
      (fun x y => FieldsGrow below x.1 y.1 ∧
        FieldsGrow below (ofNames inner x.2) (ofNames inner y.2))
      (split? own o v) (split? own o w) :=
  rel_bind (h.entries? EntriesGrow.refl o) fun _ _ hab => hab.splitEntries? hbelow o

/-- There are tags in a record that grew exactly if there were tags before. -/
theorem RecordGrows.tagFree_eq (h : RecordGrows names below v w)
    (hbelow : ∀ name v w, below name v w → tagFree w = tagFree v) : tagFree w = tagFree v :=
  Grows.tagFree_eq h (fun _ _ hab => hab ▸ rfl) fun _ _ hab => hab.tagFree_eq hbelow

end

/-! ### The levels of a document -/

section

variable {v w : Value}

theorem BatchGrows.tagFree_eq (h : BatchGrows v w) : tagFree w = tagFree v :=
  RecordGrows.tagFree_eq h fun _ _ _ hvw => hvw.elim

theorem EntryGrows.tagFree_eq (h : EntryGrows v w) : tagFree w = tagFree v :=
  RecordGrows.tagFree_eq h fun _ _ _ hvw => hvw.2.tagFree_eq

theorem EntryListGrows.tagFree_eq (h : EntryListGrows v w) : tagFree w = tagFree v := by
  refine Grows.tagFree_eq h (fun a b hab => ?_) fun a b hab => hab ▸ rfl
  induction hab with
  | nil => rfl
  | cons hvw _ ih => rw [itemsTagFree, itemsTagFree, ih, hvw.tagFree_eq]

/-- Hints about batches are read as before. -/
theorem BatchGrows.batch?_eq (h : BatchGrows v w) (o : Origin) : batch? o w = batch? o v := by
  refine (bind_eq_of_rel (h.record? o) fun f g hfg => ?_).symm
  have hfield (name : String) : field g name 0 (word? o) = field f name 0 (word? o) :=
    hfg.field_eq fun _ _ hvw => hvw.elim
  simp only [hfield]

/-- An entry is read as before, in place and gathered. -/
theorem EntryGrows.entryOf?_eq (h : EntryGrows v w) (o : Origin) : entryOf? o w = entryOf? o v := by
  have hsplit := RecordGrows.split? h (fun _ _ _ hvw => hvw.2.tagFree_eq) o
  refine (bind_eq_of_rel hsplit fun x y hxy =>
    bind_eq_of_rel hxy.2.embedded? fun f g hfg => ?_).symm
  have hid : field y.1 "id" "" (text? o) = field x.1 "id" "" (text? o) :=
    hxy.1.field_eq fun _ _ hvw => absurd hvw.1 (by decide)
  have hkind : field g "kind" "" (text? .gathered) = field f "kind" "" (text? .gathered) :=
    hfg.field_eq fun _ _ hvw => absurd hvw.1 (by decide)
  have hparams : field g "params" .null some = field f "params" .null some :=
    hfg.field_eq fun _ _ hvw => absurd hvw.1 (by decide)
  have hbatch : field y.1 "batchparams" {} (batch? o) = field x.1 "batchparams" {} (batch? o) :=
    hxy.1.field_eq fun _ _ hvw => hvw.2.batch?_eq o
  rw [hid, hkind, hparams, hbatch]

/-- A list of entries is read as before. -/
theorem EntryListGrows.entryList?_eq (h : EntryListGrows v w) (o : Origin) :
    entryList? o w = entryList? o v := by
  have hitems := h.items? (fun a => List.forall₂_same.mpr fun v _ => .same v) o
  refine (bind_eq_of_rel hitems fun a b hab => ?_).symm
  exact (mapM_eq_of_forall₂ hab fun v w hvw => hvw.entryOf?_eq o).symm

/-- The lists among the fields of adapters are read as before. -/
theorem FieldsGrow.entryList?_eq {f g : Fields} (h : FieldsGrow ListsGrow f g) (name : String)
    (o : Origin) : field g name [] (entryList? o) = field f name [] (entryList? o) :=
  h.field_eq fun _ _ hvw => hvw.2.entryList?_eq o

/-- The adapters of a scope are read as before. -/
theorem AdaptersGrow.adapters?_eq (h : AdaptersGrow v w) : adapters? w = adapters? v := by
  refine (bind_eq_of_rel (h.record? .direct) fun f g hfg => ?_).symm
  simp only [hfg.entryList?_eq]

/-- A peer is read as before. -/
theorem PeerGrows.peer?_eq (h : PeerGrows v w) : peer? w = peer? v := by
  have hsplit := RecordGrows.split? h (fun _ _ _ hvw => hvw.2.tagFree_eq) .direct
  refine (bind_eq_of_rel hsplit fun x y hxy =>
    bind_eq_of_rel hxy.2.embedded? fun f g hfg => ?_).symm
  have hservice : field y.1 "serviceid" "" (text? .direct) =
      field x.1 "serviceid" "" (text? .direct) :=
    hxy.1.field_eq fun _ _ hvw => absurd hvw.1 (by decide)
  rw [hservice, hfg.entryList?_eq, hfg.entryList?_eq]

/-- A map is read as before if its values are. -/
theorem MapGrows.map?_eq {α : Type} {read : Value → Option α} {R : Value → Value → Prop}
    (h : MapGrows R v w) (hrefl : ∀ v, R v v) (hread : ∀ v w, R v w → read w = read v) :
    map? read w = map? read v := by
  have hentries := h.entries? (fun a => List.forall₂_same.mpr fun x _ => ⟨rfl, hrefl x.2⟩) .direct
  refine (bind_eq_of_rel hentries fun a b hab => ?_).symm
  rw [mapM_eq_of_forall₂ hab fun x y hxy => by rw [hxy.1, hread _ _ hxy.2]]

/-- A service is read as before. -/
theorem ServiceGrows.service?_eq (h : ServiceGrows v w) : service? w = service? v := by
  refine (bind_eq_of_rel (h.record? .direct) fun f g hfg => ?_).symm
  have hid : field g "serviceid" "" (text? .direct) = field f "serviceid" "" (text? .direct) :=
    hfg.field_eq fun _ _ hvw => by
      rcases hvw with hvw | hvw <;> exact absurd hvw.1 (by decide)
  have hscope {name : String} (hname : name ∉ ["consumers", "producers"]) :
      field g name {} adapters? = field f name {} adapters? :=
    hfg.field_eq fun _ _ hvw => (hvw.resolve_right fun h => hname h.1).2.adapters?_eq
  have hpeers {name : String} (hname : name ∉ ["self", "ingress", "egress"]) :
      field g name .empty (map? peer?) = field f name .empty (map? peer?) :=
    hfg.field_eq fun _ _ hvw =>
      (hvw.resolve_left fun h => hname h.1).2.map?_eq .same fun _ _ h => h.peer?_eq
  rw [hid, hscope (by decide), hscope (by decide), hscope (by decide), hpeers (by decide),
    hpeers (by decide)]

/-- A document is read as before. -/
theorem DocumentGrows.ofValue?_eq (h : DocumentGrows v w) : ofValue? w = ofValue? v :=
  MapGrows.map?_eq h .same fun _ _ hvw => hvw.service?_eq

end

/-! ### Whole documents -/

/-- A field that is added comes first. -/
theorem eq_cons_of_addField? {name : String} {v : Value} {fields added : Fields}
    (h : addField? name v fields = some added) : added = (name, v) :: fields := by
  unfold addField? at h
  split at h
  · cases h
  · exact (Option.some.inj h).symm

/-- An embedding mapping has fields with the names that it declares, and gathers none of them. -/
theorem names_of_splitEntries? {names : List String} {o : Origin} {entries : List (Value × Value)}
    {own rest : Fields} (h : splitEntries? names o entries = some (own, rest)) :
    (∀ f ∈ own, f.1 ∈ names) ∧ ∀ f ∈ rest, f.1 ∉ names := by
  induction entries generalizing own rest with
  | nil =>
    obtain ⟨rfl, rfl⟩ := Prod.mk.inj (Option.some.inj h)
    exact ⟨List.forall_mem_nil _, List.forall_mem_nil _⟩
  | cons e entries ih =>
    simp only [splitEntries?, bind, Option.bind_eq_some_iff] at h
    obtain ⟨key, -, before, hbefore, h⟩ := h
    obtain ⟨hown, hrest⟩ := ih hbefore
    cases key with
    | place i =>
      obtain ⟨rfl, rfl⟩ := Prod.mk.inj (Option.some.inj h)
      exact ⟨hown, hrest⟩
    | name s =>
      by_cases hname : s ∈ names
      · simp only [hname, if_true, Option.bind_eq_some_iff] at h
        obtain ⟨added, hadded, h⟩ := h
        obtain ⟨rfl, rfl⟩ := Prod.mk.inj (Option.some.inj h)
        rw [eq_cons_of_addField? hadded]
        exact ⟨List.forall_mem_cons.mpr ⟨hname, hown⟩, hrest⟩
      · simp only [hname, if_false] at h
        split at h
        · obtain ⟨rfl, rfl⟩ := Prod.mk.inj (Option.some.inj h)
          exact ⟨hown, List.forall_mem_cons.mpr ⟨hname, hrest⟩⟩
        · cases h

/-- An embedded part has the gathered fields with its names, and no others. -/
theorem eq_ofNames_of_embedded? {names : List String} {fields found : Fields}
    (h : embedded? names fields = some found) : found = ofNames names fields := by
  induction fields generalizing found with
  | nil => exact (Option.some.inj h).symm
  | cons f rest ih =>
    simp only [embedded?, bind, Option.bind_eq_some_iff] at h
    obtain ⟨before, hbefore, h⟩ := h
    by_cases hname : f.1 ∈ names
    · simp only [hname, if_true] at h
      rw [ofNames_cons_of_mem hname, ← ih hbefore]
      exact eq_cons_of_addField? h
    · simp only [hname, if_false, Option.some.injEq] at h
      rw [ofNames_cons_of_notMem hname, ← ih hbefore, h]

/-- A document that grew at any of its levels is read as before: the values of its services, of
their scopes and of their peers, of the entries and of the hints about batches. In particular
the peers and the entries are, whose mappings embed others: what is found in such a mapping has
the names that it declares, and what is found of the embedded part are the gathered fields with
the part's names. -/
theorem ofValue?_eq_of_grows :
    (∀ {v w : Value}, DocumentGrows v w → ofValue? w = ofValue? v) ∧
    (∀ {v w : Value}, PeerGrows v w → peer? w = peer? v) ∧
    (∀ {v w : Value} (o : Origin), EntryGrows v w → entryOf? o w = entryOf? o v) ∧
    ∀ {names : List String} {o : Origin} {v : Value} {own rest : Fields},
      split? names o v = some (own, rest) →
      (∀ f ∈ own, f.1 ∈ names) ∧ (∀ f ∈ rest, f.1 ∉ names) ∧
      ∀ {inner : List String} {found : Fields}, embedded? inner rest = some found →
        found = ofNames inner rest := by
  refine ⟨fun h => h.ofValue?_eq, fun h => h.peer?_eq, fun o h => h.entryOf?_eq o, ?_⟩
  intro names o v own rest h
  obtain ⟨entries, -, hsplit⟩ := Option.bind_eq_some_iff.mp h
  obtain ⟨hown, hrest⟩ := names_of_splitEntries? hsplit
  exact ⟨hown, hrest, eq_ofNames_of_embedded?⟩

/-- A document with an entry for a peer and one for all callers. -/
def briefDocument : Value := .map [(.str "books", .map [
  (.str "ingress", .map [(.str "checkers", .seq [.map [(.str "kind", .str "open")]])]),
  (.str "consumers", .map [(.str "web", .map [
    (.str "serviceid", .str "web-1"),
    (.str "checkers", .seq [.map [
      (.str "kind", .str "open"),
      (.str "batchparams", .map [(.str "size", .int 5)])]])])])])]

/-- The same document with remarks at all levels. -/
def remarkedDocument : Value := .map [(.str "books", .map [
  (.str "owner", .map [(.str "kind", .str "team")]),
  (.str "ingress", .map [
    (.str "serviceid", .int 1),
    (.str "checkers", .seq [.map [(.str "kind", .str "open"), (.str "checkers", .null)]])]),
  (.str "consumers", .map [(.str "web", .map [
    (.str "serviceid", .str "web-1"),
    (.str "kind", .seq []),
    (.str "checkers", .seq [.map [
      (.str "serviceid", .bool true),
      (.str "kind", .str "open"),
      (.str "batchparams", .map [(.str "id", .null), (.str "size", .int 5)]),
      (.str "note", .str "")]])])])])]

/-- Remarks are growth, and the document is read as before. -/
theorem ofValue?_eq_of_grows_remarked :
    DocumentGrows briefDocument remarkedDocument ∧ (ofValue? briefDocument).isSome ∧
    ofValue? remarkedDocument = ofValue? briefDocument := by
  have hgrows : DocumentGrows briefDocument remarkedDocument := by
    refine .map (.cons ⟨rfl, .map (.new (by decide) (by decide) ?_)⟩ .nil)
    refine .old (.inr ⟨"ingress", rfl, .inl ⟨by decide, ?_⟩⟩)
      (.old (.inr ⟨"consumers", rfl, .inr ⟨by decide, ?_⟩⟩) .nil)
    · refine .map (.new (by decide) (by decide) (.old (.inr ⟨"checkers", rfl, by decide, ?_⟩) .nil))
      exact .seq (.cons (.map (.old (.inl rfl) (.new (by decide) (by decide) .nil))) .nil)
    · refine .map (.cons ⟨rfl, .map (.old (.inl rfl) (.new (by decide) (by decide) ?_))⟩ .nil)
      refine .old (.inr ⟨"checkers", rfl, by decide, .seq (.cons (.map ?_) .nil)⟩) .nil
      refine .new (by decide) (by decide) (.old (.inl rfl)
        (.old (.inr ⟨"batchparams", rfl, rfl, .map ?_⟩) (.new (by decide) (by decide) .nil)))
      exact .new (by decide) (by decide) (.old (.inl rfl) .nil)
  exact ⟨hgrows, by decide, ofValue?_eq_of_grows.1 hgrows⟩

end Services

end ServiceControl
