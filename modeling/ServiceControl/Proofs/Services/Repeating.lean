import ServiceControl.Proofs.Services.Bindings

/-!
# A conversion is final

Conversion leaves a bound entry alone, whoever its builder is and whether or not its params could be
used, and it leaves no entry unbound: an entry is bound or removed. So a converted configuration is
a fixed point of every conversion, also of one with other registries.
-/

namespace ServiceControl

variable {r : Registries}

/-- A bound entry is left alone by all registries, and no problem is reported. -/
theorem Entry.convert_of_isSome {e : Entry} (h : e.binding.isSome = true) (r : Registries)
    (m : Method) (path : String) : e.convert r m path = (some e, none) :=
  if_pos h

/-- What conversion leaves in a list is bound. -/
theorem Entry.isSome_binding_of_convert {m : Method} {path : String} {e e' : Entry}
    (h : (e.convert r m path).1 = some e') : e'.binding.isSome = true := by
  rcases Entry.convert_eq_some h with ⟨hbound, rfl⟩ | ⟨b, -, rfl⟩
  · exact hbound
  · rfl

/-- A list of bound entries is left alone, wherever it stands. -/
theorem convertList_of_isSome {l : List Entry} (h : ∀ e ∈ l, e.binding.isSome = true)
    (m : Method) (scope : String) (i : Nat) : convertList r m scope i l = ⟨l, []⟩ := by
  induction l generalizing i with
  | nil => rfl
  | cons e rest ih =>
    have hrest := ih (fun x hx => h x (List.mem_cons_of_mem e hx)) (i + 1)
    simp only [convertList, Entry.convert_of_isSome (h e List.mem_cons_self), hrest,
      Option.toList_some, Option.toList_none, List.singleton_append, List.nil_append]

/-- Adapters of bound entries are left alone. -/
theorem Adapters.convert_of_isSome {a : Adapters}
    (h : ∀ m, ∀ e ∈ a.of m, e.binding.isSome = true) (scope : String) :
    a.convert r scope = ⟨a, []⟩ := by
  have hcheckers : convertList r .check (scope ++ ".Checkers") 0 a.checkers = ⟨a.checkers, []⟩ :=
    convertList_of_isSome (h .check) .check _ 0
  have hreporters : convertList r .report (scope ++ ".Reporters") 0 a.reporters =
      ⟨a.reporters, []⟩ :=
    convertList_of_isSome (h .report) .report _ 0
  simp only [convert, hcheckers, hreporters, List.append_nil]

/-- A map whose values are all left alone is left alone. -/
theorem SortedMap.convert_of_forall {α : Type} {f : String → α → Converted α} {m : SortedMap α}
    (h : ∀ x ∈ m.entries, f x.1 x.2 = ⟨x.2, []⟩) : m.convert f = ⟨m, []⟩ := by
  have hvalue : (m.mapWithKey fun k v => (f k v).value) = m := by
    refine SortedMap.ext ?_
    calc m.entries.map (fun x => (x.1, (f x.1 x.2).value))
        = m.entries.map id := List.map_congr_left fun x hx => by rw [h x hx, id]
      _ = m.entries := List.map_id _
  have herrors : (m.entries.flatMap fun x => (f x.1 x.2).errors) = [] :=
    List.flatMap_eq_nil_iff.mpr fun x hx => by rw [h x hx]
  rw [convert, hvalue, herrors]

/-- A service of bound entries is left alone. -/
theorem Service.convert_of_isSome {s : Service}
    (h : ∀ a ∈ s.scopes, ∀ m, ∀ e ∈ a.of m, e.binding.isSome = true) (name : String) :
    s.convert r name = ⟨s, []⟩ := by
  have hscope : ∀ a ∈ s.scopes, ∀ scope, a.convert r scope = ⟨a, []⟩ := fun a ha =>
    Adapters.convert_of_isSome (h a ha)
  have hpeers : ∀ (peers : SortedMap Peer) (scope : String → String),
      (∀ x ∈ peers.entries, x.2.adapters ∈ s.scopes) →
      (peers.convert fun peer p => p.convert r (scope peer)) = ⟨peers, []⟩ := by
    intro peers scope hpeer
    refine SortedMap.convert_of_forall fun x hx => ?_
    rw [Peer.convert, hscope _ (hpeer x hx)]
  have hconsumers : ∀ x ∈ s.consumers.entries, x.2.adapters ∈ s.scopes := fun x hx =>
    List.mem_append_left _ (List.mem_append_right _ (List.mem_map_of_mem hx))
  have hproducers : ∀ x ∈ s.producers.entries, x.2.adapters ∈ s.scopes := fun x hx =>
    List.mem_append_right _ (List.mem_map_of_mem hx)
  have hingress : s.ingress ∈ s.scopes := by simp [scopes]
  have hegress : s.egress ∈ s.scopes := by simp [scopes]
  have hown : s.own ∈ s.scopes := by simp [scopes]
  simp only [convert, hscope _ hingress, hscope _ hegress, hscope _ hown,
    hpeers s.consumers _ hconsumers, hpeers s.producers _ hproducers, List.append_nil]

namespace Services

/-- Every entry is bound. -/
def IsConverted (s : Services) : Prop := s.All fun _ e => e.binding.isSome = true

/-- All entries that a conversion leaves are bound. -/
theorem isConverted_convert (r : Registries) (s : Services) : (s.convert r).value.IsConverted := by
  have hall : s.All fun _ _ => True := fun _ _ _ _ _ => trivial
  exact hall.convert fun _ _ _ _ _ hconvert => Entry.isSome_binding_of_convert hconvert

/-- A converted configuration is left alone by all registries. -/
theorem IsConverted.convert_eq {s : Services} (h : s.IsConverted) (r : Registries) :
    s.convert r = ⟨s, []⟩ := by
  refine SortedMap.convert_of_forall fun x hx => ?_
  exact Service.convert_of_isSome (fun a ha => h a (List.mem_flatMap.mpr ⟨x, hx, ha⟩)) x.1

/-- A conversion binds every entry that it leaves, and any other conversion behind it, with the same
registries or with others, reports no problem and changes nothing: neither the entries and their
order nor the paths, builders, params and faults of their bindings. -/
theorem convert_convert (r₁ r₂ : Registries) (s : Services) :
    let once := (s.convert r₁).value
    once.IsConverted ∧ once.convert r₂ = ⟨once, []⟩ := by
  intro once
  have honce : once.IsConverted := isConverted_convert r₁ s
  exact ⟨honce, honce.convert_eq r₂⟩

end Services

end ServiceControl
