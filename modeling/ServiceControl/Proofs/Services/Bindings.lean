import ServiceControl.Services.Convert
import ServiceControl.Services.Resolve
import ServiceControl.Services.Yaml

/-!
# Bindings throughout a configuration

Whatever a configuration holds stands in one of its scopes. Resolution picks entries from there, and
conversion treats every entry in its place, so what conversion establishes of one entry holds of all
entries that apply to a call. A snapshot is a configuration as it was written, or one that the
registries at hand have converted: each binding in it is the one that these registries give.
-/

namespace ServiceControl

/-- The adapters of a service, scope by scope. -/
def Service.scopes (s : Service) : List Adapters :=
  [s.ingress, s.egress, s.own] ++ s.consumers.entries.map (·.2.adapters) ++
    s.producers.entries.map (·.2.adapters)

/-- The adapters of all services. -/
def Services.allScopes (s : Services) : List Adapters := s.entries.flatMap (·.2.scopes)

/-- A property of all entries, by the method of the list in which they stand. -/
def Services.All (P : Method → Entry → Prop) (s : Services) : Prop :=
  ∀ a ∈ s.allScopes, ∀ m, ∀ e ∈ a.of m, P m e

/-- A scope of a service that is found is one of the configuration. -/
theorem Services.mem_allScopes {s : Services} {name : String} {service : Service} {a : Adapters}
    (h : s.find? name = some service) (ha : a ∈ service.scopes) : a ∈ s.allScopes :=
  List.mem_flatMap.mpr ⟨(name, service), SortedMap.mem_entries_of_find? h, ha⟩

/-- The adapters for a peer are among the scopes of the service. -/
theorem Service.consumer_mem_scopes {s : Service} {name : String} {p : Peer}
    (h : s.consumers.find? name = some p) : p.adapters ∈ s.scopes := by
  simp only [Service.scopes, List.mem_append, List.mem_map]
  exact Or.inl (Or.inr ⟨(name, p), SortedMap.mem_entries_of_find? h, rfl⟩)

/-- A call consults no scope that the configuration does not have. -/
theorem Services.scopes_subset (s : Services) (k : CallKey) : s.scopes k ⊆ s.allScopes := by
  intro a ha
  simp only [Services.scopes, List.mem_append] at ha
  rcases ha with (ha | ha) | ha
  · split at ha
    · next every h =>
      exact mem_allScopes h (List.mem_append_left _ (List.mem_append_left _ ha))
    · cases ha
  · split at ha
    · next source h =>
      obtain rfl := List.mem_singleton.mp ha
      exact mem_allScopes h (by simp [Service.scopes])
    · cases ha
  · split at ha
    · next destination h =>
      rcases List.mem_cons.mp ha with rfl | ha
      · exact mem_allScopes h (by simp [Service.scopes])
      · obtain ⟨p, hp, rfl⟩ := Option.map_eq_some_iff.mp (Option.mem_toList.mp ha)
        exact mem_allScopes h (Service.consumer_mem_scopes hp)
    · cases ha

/-- Entries that apply to a call are active, and have what all entries of their method have. -/
theorem Services.All.of_mem_resolve {P : Method → Entry → Prop} {s : Services} (h : s.All P)
    {k : CallKey} {e : Entry} (he : e ∈ s.resolve k) : P k.method e ∧ e.isActive = true := by
  obtain ⟨a, ha, hea⟩ := List.mem_flatMap.mp he
  obtain ⟨hm, hactive⟩ := List.mem_filter.mp hea
  exact ⟨h a (s.scopes_subset k ha) k.method e hm, hactive⟩

/-- All that conversion does to one entry that it keeps. -/
theorem Entry.convert_eq_some {r : Registries} {m : Method} {path : String} {e e' : Entry}
    (h : (e.convert r m path).1 = some e') :
    (e.binding.isSome = true ∧ e' = e) ∨
      ∃ b, r.builder? e.kind m = some b ∧
        e' = { e with binding := some ⟨path, b, e.resolve b⟩ } := by
  unfold Entry.convert at h
  split at h
  · next hb => exact Or.inl ⟨hb, (Option.some.inj h).symm⟩
  · split at h
    · cases h
    · next b hb => exact Or.inr ⟨b, hb, (Option.some.inj h).symm⟩

/-- Every entry of a converted list is an entry of the list that was kept. -/
theorem exists_of_mem_convertList {r : Registries} {m : Method} {scope : String} {i : Nat}
    {l : List Entry} {e' : Entry} (h : e' ∈ (convertList r m scope i l).value) :
    ∃ e ∈ l, ∃ path, (e.convert r m path).1 = some e' := by
  induction l generalizing i with
  | nil => cases h
  | cons e rest ih =>
    simp only [convertList, List.mem_append, Option.mem_toList] at h
    rcases h with h | h
    · exact ⟨e, List.mem_cons_self, _, h⟩
    · obtain ⟨x, hx, path, hpath⟩ := ih h
      exact ⟨x, List.mem_cons_of_mem _ hx, path, hpath⟩

/-- Every entry of converted adapters is one of the adapters that was kept, under the same
method. -/
theorem Adapters.exists_of_mem_convert {r : Registries} {scope : String} {a : Adapters} {m : Method}
    {e' : Entry} (h : e' ∈ (a.convert r scope).value.of m) :
    ∃ e ∈ a.of m, ∃ path, (e.convert r m path).1 = some e' := by
  cases m with
  | check => exact exists_of_mem_convertList h
  | report => exact exists_of_mem_convertList h

/-- The scopes of a converted service are its scopes, each converted. -/
theorem Service.exists_of_mem_scopes_convert {r : Registries} {name : String} {s : Service}
    {a' : Adapters} (h : a' ∈ (s.convert r name).value.scopes) :
    ∃ a ∈ s.scopes, ∃ scope, a' = (a.convert r scope).value := by
  simp only [Service.scopes, Service.convert, SortedMap.convert, SortedMap.mapWithKey, Peer.convert,
    List.map_map, List.mem_append, List.mem_cons, List.mem_map, List.not_mem_nil, or_false,
    Function.comp_apply] at h ⊢
  rcases h with ((rfl | rfl | rfl) | ⟨p, hp, rfl⟩) | ⟨p, hp, rfl⟩
  · exact ⟨s.ingress, Or.inl (Or.inl (Or.inl rfl)), _, rfl⟩
  · exact ⟨s.egress, Or.inl (Or.inl (Or.inr (Or.inl rfl))), _, rfl⟩
  · exact ⟨s.own, Or.inl (Or.inl (Or.inr (Or.inr rfl))), _, rfl⟩
  · exact ⟨p.2.adapters, Or.inl (Or.inr ⟨p, hp, rfl⟩), _, rfl⟩
  · exact ⟨p.2.adapters, Or.inr ⟨p, hp, rfl⟩, _, rfl⟩

/-- The scopes of a converted configuration are its scopes, each converted. -/
theorem Services.exists_of_mem_allScopes_convert {r : Registries} {s : Services} {a' : Adapters}
    (h : a' ∈ (s.convert r).value.allScopes) :
    ∃ a ∈ s.allScopes, ∃ scope, a' = (a.convert r scope).value := by
  obtain ⟨x', hx', ha'⟩ := List.mem_flatMap.mp h
  obtain ⟨x, hx, rfl⟩ := List.mem_map.mp hx'
  obtain ⟨a, ha, scope, rfl⟩ := Service.exists_of_mem_scopes_convert ha'
  exact ⟨a, List.mem_flatMap.mpr ⟨x, hx, ha⟩, scope, rfl⟩

/-- What conversion makes of entries one by one, it makes of all of them. -/
theorem Services.All.convert {P Q : Method → Entry → Prop} {r : Registries} {s : Services}
    (h : s.All P)
    (hstep : ∀ m path e e', P m e → (e.convert r m path).1 = some e' → Q m e') :
    (s.convert r).value.All Q := by
  intro a' ha' m e' he'
  obtain ⟨a, ha, scope, rfl⟩ := exists_of_mem_allScopes_convert ha'
  obtain ⟨e, he, path, hpath⟩ := Adapters.exists_of_mem_convert he'
  exact hstep m path e e' (h a ha m e he) hpath

/-- A binding, if there is one, is to the registered builder of the kind, with the entry's own
params. -/
def Entry.BoundBy (r : Registries) (m : Method) (e : Entry) : Prop :=
  ∀ b, e.binding = some b → r.builder? e.kind m = some b.builder ∧ b.result = e.resolve b.builder

/-- Conversion binds to registered builders, and leaves their bindings as they are. -/
theorem Entry.BoundBy.convert {r : Registries} {m : Method} {path : String} {e e' : Entry}
    (h : e.BoundBy r m) (hconvert : (e.convert r m path).1 = some e') : e'.BoundBy r m := by
  rcases Entry.convert_eq_some hconvert with ⟨_, rfl⟩ | ⟨b, hb, rfl⟩
  · exact h
  · intro x hx
    obtain rfl := Option.some.inj hx
    exact ⟨hb, rfl⟩

/-- No entry was converted yet. -/
def Services.IsRaw (s : Services) : Prop := s.All fun _ e => e.binding = none

instance (s : Services) : Decidable s.IsRaw :=
  decidable_of_iff (∀ a ∈ s.allScopes, (∀ e ∈ a.checkers, e.binding.isNone = true) ∧
      ∀ e ∈ a.reporters, e.binding.isNone = true) <| by
    simp only [Option.isNone_iff_eq_none]
    constructor
    · intro h a ha m
      cases m with
      | check => exact (h a ha).1
      | report => exact (h a ha).2
    · exact fun h a ha => ⟨h a ha .check, h a ha .report⟩

/-- A configuration as it was written, or as the registries have converted it. -/
inductive Services.Snapshot (r : Registries) : Services → Prop where
  | raw {s : Services} : s.IsRaw → Snapshot r s
  | converted {s : Services} : Snapshot r s → Snapshot r (s.convert r).value

/-- All bindings of a snapshot are those that the registries give. -/
theorem Services.Snapshot.boundBy {r : Registries} {s : Services} (h : Snapshot r s) :
    s.All (fun m e => e.BoundBy r m) := by
  induction h with
  | raw hraw =>
    intro a ha m e he b hb
    cases (hraw a ha m e he).symm.trans hb
  | converted _ ih => exact ih.convert fun _ _ _ _ hb hconvert => hb.convert hconvert

end ServiceControl
