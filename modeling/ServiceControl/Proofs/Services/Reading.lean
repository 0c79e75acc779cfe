import ServiceControl.Proofs.Services.Bindings

/-!
# What is read comes entry by entry

Every entry of a document is read by itself, wherever it stands. So what holds of each single entry
that is read holds of all entries of a document. Reading fills in what the document says about an
entry and nothing else, so no entry of a document that was just read is bound: such a configuration
is a snapshot for any registries.
-/

namespace ServiceControl

/-- Each item of a list that is read comes from reading one item. -/
theorem exists_of_mem_mapM {α β : Type} {f : α → Option β} {l : List α} {l' : List β}
    (h : l.mapM f = some l') {b : β} (hb : b ∈ l') : ∃ a ∈ l, f a = some b := by
  induction l generalizing l' with
  | nil =>
    obtain rfl := Option.some.inj h
    cases hb
  | cons a rest ih =>
    simp only [List.mapM_cons, bind, Option.bind_eq_some_iff, pure, Option.some.injEq] at h
    obtain ⟨x, hx, xs, hxs, rfl⟩ := h
    rcases List.mem_cons.mp hb with rfl | hb
    · exact ⟨a, List.mem_cons_self, hx⟩
    · obtain ⟨y, hy, hfy⟩ := ih hxs hb
      exact ⟨y, List.mem_cons_of_mem _ hy, hfy⟩

namespace Services

/-- A field that is read is what was read of one of the fields, or its default. -/
theorem field_eq_some {α : Type} {fields : Fields} {name : String} {default a : α}
    {read : Yaml.Value → Option α} (h : field fields name default read = some a) :
    a = default ∨ ∃ x ∈ fields, read x.2 = some a := by
  unfold field at h
  split at h
  · next name' v hfind => exact Or.inr ⟨_, List.mem_of_find?_eq_some hfind, h⟩
  · exact Or.inl (Option.some.inj h).symm

/-- What is in a map that is read was read as one of its values. -/
theorem read_of_mem_map? {α : Type} {read : Yaml.Value → Option α} {v : Yaml.Value}
    {m : SortedMap α} (h : map? read v = some m) {e : String × α} (he : e ∈ m.entries) :
    ∃ x, read x = some e.2 := by
  simp only [map?, bind, Option.bind_eq_some_iff, pure, Option.some.injEq] at h
  obtain ⟨_, _, pairs, hpairs, rfl⟩ := h
  rcases SortedMap.mem_entries_insertAll he with he | he
  · cases he
  · obtain ⟨x, _, hx⟩ := exists_of_mem_mapM hpairs he
    simp only [Option.bind_eq_some_iff, Option.some.injEq] at hx
    obtain ⟨_, _, _, hr, rfl⟩ := hx
    exact ⟨_, hr⟩

section

variable {P : Entry → Prop} (hP : ∀ {o v e}, entryOf? o v = some e → P e)

include hP

theorem forall_of_entryList? {o : Origin} {v : Yaml.Value} {l : List Entry}
    (h : entryList? o v = some l) {e : Entry} (he : e ∈ l) : P e := by
  obtain ⟨items, _, hitems⟩ := Option.bind_eq_some_iff.mp h
  obtain ⟨x, _, hx⟩ := exists_of_mem_mapM hitems he
  exact hP hx

theorem forall_of_entriesField {o : Origin} {fields : Fields} {name : String} {l : List Entry}
    (h : field fields name [] (entryList? o) = some l) {e : Entry} (he : e ∈ l) : P e := by
  rcases field_eq_some h with rfl | ⟨x, _, hx⟩
  · cases he
  · exact forall_of_entryList? hP hx he

theorem forall_of_adapters? {v : Yaml.Value} {a : Adapters} (h : adapters? v = some a) {m : Method}
    {e : Entry} (he : e ∈ a.of m) : P e := by
  simp only [adapters?, bind, Option.bind_eq_some_iff, pure, Option.some.injEq] at h
  obtain ⟨_, _, _, hc, _, hr, rfl⟩ := h
  cases m with
  | check => exact forall_of_entriesField hP hc he
  | report => exact forall_of_entriesField hP hr he

theorem forall_of_peer? {v : Yaml.Value} {p : Peer} (h : peer? v = some p) {m : Method}
    {e : Entry} (he : e ∈ p.adapters.of m) : P e := by
  simp only [peer?, bind, Option.bind_eq_some_iff, pure, Option.some.injEq] at h
  obtain ⟨_, _, _, _, _, _, _, hc, _, hr, rfl⟩ := h
  cases m with
  | check => exact forall_of_entriesField hP hc he
  | report => exact forall_of_entriesField hP hr he

theorem forall_of_adaptersField {fields : Fields} {name : String} {a : Adapters}
    (h : field fields name {} adapters? = some a) {m : Method} {e : Entry} (he : e ∈ a.of m) :
    P e := by
  rcases field_eq_some h with rfl | ⟨x, _, hx⟩
  · cases m <;> cases he
  · exact forall_of_adapters? hP hx he

theorem forall_of_peersField {fields : Fields} {name : String} {peers : SortedMap Peer}
    (h : field fields name .empty (map? peer?) = some peers) {x : String × Peer}
    (hx : x ∈ peers.entries) {m : Method} {e : Entry} (he : e ∈ x.2.adapters.of m) : P e := by
  rcases field_eq_some h with rfl | ⟨y, _, hy⟩
  · cases hx
  · obtain ⟨w, hw⟩ := read_of_mem_map? hy hx
    exact forall_of_peer? hP hw he

theorem forall_of_service? {v : Yaml.Value} {s : Service} (h : service? v = some s) {a : Adapters}
    (ha : a ∈ s.scopes) {m : Method} {e : Entry} (he : e ∈ a.of m) : P e := by
  simp only [service?, bind, Option.bind_eq_some_iff, pure, Option.some.injEq] at h
  obtain ⟨_, _, _, _, _, hown, _, hingress, _, hegress, _, hconsumers, _, hproducers, rfl⟩ := h
  simp only [Service.scopes, List.mem_append, List.mem_cons, List.mem_map, List.not_mem_nil,
    or_false] at ha
  rcases ha with ((rfl | rfl | rfl) | ⟨x, hx, rfl⟩) | ⟨x, hx, rfl⟩
  · exact forall_of_adaptersField hP hingress he
  · exact forall_of_adaptersField hP hegress he
  · exact forall_of_adaptersField hP hown he
  · exact forall_of_peersField hP hconsumers hx he
  · exact forall_of_peersField hP hproducers hx he

/-- What holds of each entry that is read holds of all entries of a document. -/
theorem all_of_ofValue? {v : Yaml.Value} {s : Services} (h : ofValue? v = some s) :
    s.All fun _ e => P e := by
  intro a ha m e he
  obtain ⟨x, hx, hax⟩ := List.mem_flatMap.mp ha
  obtain ⟨w, hw⟩ := read_of_mem_map? h hx
  exact forall_of_service? hP hw hax he

end

/-- Entries are not bound when they are read. -/
theorem binding_of_entryOf? {o : Origin} {v : Yaml.Value} {e : Entry} (h : entryOf? o v = some e) :
    e.binding = none := by
  simp only [entryOf?, bind, Option.bind_eq_some_iff, pure, Option.some.injEq] at h
  obtain ⟨_, _, _, _, _, _, _, _, _, _, _, _, rfl⟩ := h
  rfl

/-- A document is raw when it is read. -/
theorem isRaw_of_parse? {bytes : ByteArray} {s : Services} (h : parse? bytes = some s) :
    s.IsRaw := by
  obtain ⟨v, _, hv⟩ := Option.bind_eq_some_iff.mp h
  exact all_of_ofValue? binding_of_entryOf? hv

end Services

end ServiceControl
