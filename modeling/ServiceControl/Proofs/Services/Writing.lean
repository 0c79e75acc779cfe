import ServiceControl.Proofs.Services.Conversion
import ServiceControl.Proofs.Services.Reading
import ServiceControl.Proofs.Services.Records

/-!
# Writing and reading back

A configuration that was read can be written, and reading what was written gives it again. Not
every entry can be written and read back: an entry that was read has params without tags, for they
were gathered, and hints of 64 bits. Conversion adds bindings, which are not written, and removes
entries. So a converted configuration is written like the one before it, less the entries whose
kind is not registered.
-/

namespace ServiceControl

/-! ## Entries -/

/-- An entry that can be written and read back. -/
structure Entry.IsPlain (e : Entry) : Prop where
  unbound : e.binding = none
  tagless : Services.tagFree e.params = true
  size_lt : e.batch.size < 2 ^ 64
  timeoutSec_lt : e.batch.timeoutSec < 2 ^ 64

/-- Adapters whose entries can all be written and read back. -/
def Adapters.IsPlain (a : Adapters) : Prop := ∀ m, ∀ e ∈ a.of m, e.IsPlain

namespace Services

open Yaml (Value)

theorem splitEntries?_rest_tagFree {names : List String} {o : Origin}
    {entries : List (Value × Value)} {own rest : Fields}
    (h : splitEntries? names o entries = some (own, rest)) :
    ∀ f ∈ rest, tagFree f.2 = true := by
  induction entries generalizing own rest with
  | nil =>
    cases h
    intro f hf
    cases hf
  | cons x r ih =>
    simp only [splitEntries?, bind, Option.bind_eq_some_iff] at h
    obtain ⟨k, -, ⟨own', rest'⟩, hr, h⟩ := h
    have hrest := ih hr
    cases k with
    | place _ =>
      cases h
      exact hrest
    | name s =>
      by_cases hs : s ∈ names
      · simp only [hs, if_true, Option.bind_eq_some_iff, pure] at h
        obtain ⟨_, _, h⟩ := h
        cases h
        exact hrest
      · by_cases htag : tagFree x.2 = true
        · simp only [hs, if_false, htag, if_true, pure] at h
          cases h
          exact List.forall_mem_cons.mpr ⟨htag, hrest⟩
        · simp only [hs, htag, Bool.false_eq_true, if_false] at h
          cases h

/-- What an embedding mapping gathers is free of tags. -/
theorem tagFree_of_split? {names : List String} {o : Origin} {v : Value} {own rest : Fields}
    (h : split? names o v = some (own, rest)) : ∀ f ∈ rest, tagFree f.2 = true := by
  obtain ⟨_, _, h⟩ := Option.bind_eq_some_iff.mp h
  exact splitEntries?_rest_tagFree h

/-- The fields of an embedded part are among what was gathered. -/
theorem subset_of_embedded? {names : List String} {rest inner : Fields}
    (h : embedded? names rest = some inner) : inner ⊆ rest := by
  induction rest generalizing inner with
  | nil =>
    cases h
    exact List.Subset.refl _
  | cons x r ih =>
    simp only [embedded?, bind, Option.bind_eq_some_iff] at h
    obtain ⟨fields, hr, h⟩ := h
    have hsub : fields ⊆ x :: r := List.subset_cons_of_subset _ (ih hr)
    split at h
    · simp only [addField?] at h
      split at h
      · cases h
      · cases h
        exact List.cons_subset.mpr ⟨List.mem_cons_self, hsub⟩
    · cases h
      exact hsub

/-- A number that is read has 64 bits. -/
theorem lt_of_word? {o : Origin} {v : Value} {n : Nat} (h : word? o v = some n) : n < 2 ^ 64 := by
  simp only [word?] at h
  split at h
  · next i _ =>
    split at h
    · next hi =>
      cases h
      omega
    · cases h
  · cases h

theorem lt_of_wordField {o : Origin} {fields : Fields} {name : String} {n : Nat}
    (h : field fields name 0 (word? o) = some n) : n < 2 ^ 64 := by
  rcases field_eq_some h with rfl | ⟨x, _, hx⟩
  · decide
  · exact lt_of_word? hx

/-- An entry that was read can be written and read back. -/
theorem isPlain_of_entryOf? {o : Origin} {v : Value} {e : Entry} (h : entryOf? o v = some e) :
    e.IsPlain := by
  have hbinding := binding_of_entryOf? h
  simp only [entryOf?, bind, Option.bind_eq_some_iff, pure, Option.some.injEq] at h
  obtain ⟨⟨own, rest⟩, hsplit, inner, hinner, _, _, _, _, params, hparams, batch, hbatch, rfl⟩ := h
  have htags : tagFree params = true := by
    rcases field_eq_some hparams with rfl | ⟨x, hx, hparams⟩
    · rfl
    · obtain rfl := Option.some.inj hparams
      exact tagFree_of_split? hsplit x (subset_of_embedded? hinner hx)
  have hwords : batch.size < 2 ^ 64 ∧ batch.timeoutSec < 2 ^ 64 := by
    rcases field_eq_some hbatch with rfl | ⟨x, _, hbatch⟩
    · decide
    · simp only [batch?, bind, Option.bind_eq_some_iff, pure, Option.some.injEq] at hbatch
      obtain ⟨_, _, _, hsize, _, htimeout, rfl⟩ := hbatch
      exact ⟨lt_of_wordField hsize, lt_of_wordField htimeout⟩
  exact ⟨hbinding, htags, hwords.1, hwords.2⟩

theorem word?_int {o : Origin} {n : Nat} (h : n < 2 ^ 64) : word? o (.int n) = some n := by
  have hn : (0 : Int) ≤ n ∧ (n : Int) < 2 ^ 64 := by omega
  have hview : o.view (.int n) = .int n := by cases o <;> rfl
  simp only [word?, hview, hn, and_self, if_true, Int.toNat_natCast]

theorem text?_str (o : Origin) (s : String) : text? o (.str s) = some s := by
  cases o <;> rfl

/-- Hints of 64 bits are read back. -/
theorem batch?_batchValue {o : Origin} {b : BatchHint} (hsize : b.size < 2 ^ 64)
    (htimeout : b.timeoutSec < 2 ^ 64) : batch? o (batchValue b) = some b := by
  have hrecord : record? ["size", "timeoutsec"] o (batchValue b) =
      some [("size", .int b.size), ("timeoutsec", .int b.timeoutSec)] :=
    record?_recordValue o [("size", .int b.size), ("timeoutsec", .int b.timeoutSec)]
      (by decide : ["size", "timeoutsec"].Nodup)
  simp [batch?, hrecord, field, word?_int hsize, word?_int htimeout]

/-- The field of the params of an entry, unless they are null. -/
def paramsField (e : Entry) : Fields := if e.params.isNull then [] else [("params", e.params)]

/-- The field of the hints of an entry, unless they say nothing. -/
def batchField (e : Entry) : Fields :=
  if e.batch = {} then [] else [("batchparams", batchValue e.batch)]

/-- The fields of an entry, as they are written. -/
def entryFields (e : Entry) : Fields :=
  ("id", .str e.id) :: ("kind", .str e.kind) :: (paramsField e ++ batchField e)

theorem entryValue_eq (e : Entry) : entryValue e = recordValue (entryFields e) := by
  unfold entryValue entryFields paramsField batchField
  split <;> split <;> rfl

theorem nodup_entryFields (e : Entry) : ((entryFields e).map Prod.fst).Nodup := by
  unfold entryFields paramsField batchField
  split <;> split <;> simp

theorem ofNames_entryFields (e : Entry) :
    ofNames ["id", "batchparams"] (entryFields e) = ("id", .str e.id) :: batchField e := by
  unfold entryFields paramsField batchField
  split <;> split <;> simp [ofNames]

theorem otherThan_entryFields (e : Entry) :
    otherThan ["id", "batchparams"] (entryFields e) = ("kind", .str e.kind) :: paramsField e := by
  unfold entryFields paramsField batchField
  split <;> split <;> simp [otherThan]

/-- Without a tag nothing but null itself counts as null. -/
theorem eq_null_of_isNull {v : Value} (h : v.isNull = true) (htags : tagFree v = true) :
    v = .null := by
  cases v <;> simp_all [Value.isNull, tagFree]

/-- An entry is read back, in place or gathered. -/
theorem entryOf?_entryValue (o : Origin) {e : Entry} (h : e.IsPlain) :
    entryOf? o (entryValue e) = some e := by
  have hsplit : split? ["id", "batchparams"] o (entryValue e) =
      some (("id", .str e.id) :: batchField e, ("kind", .str e.kind) :: paramsField e) := by
    rw [entryValue_eq, split?_recordValue o _ (nodup_entryFields e), ofNames_entryFields,
      otherThan_entryFields]
    -- the kind and the params are gathered, and there is no tag in them
    rw [otherThan_entryFields]
    intro f hf
    unfold paramsField at hf
    split at hf
    · obtain rfl := List.mem_singleton.mp hf
      rfl
    · rcases List.mem_pair.mp hf with rfl | rfl
      · rfl
      · exact h.tagless
  have hinner : embedded? ["kind", "params"] (("kind", .str e.kind) :: paramsField e) =
      some (("kind", .str e.kind) :: paramsField e) := by
    unfold paramsField
    split <;> simp [embedded?, addField?]
  -- what was left out is what reading takes for an absent field
  have hparams : field (("kind", .str e.kind) :: paramsField e) "params" .null some =
      some e.params := by
    unfold paramsField
    split
    · next hnull => simp [field, eq_null_of_isNull hnull h.tagless]
    · simp [field]
  have hbatch : field (("id", .str e.id) :: batchField e) "batchparams" {} (batch? o) =
      some e.batch := by
    unfold batchField
    split
    · next hunset => simp [field, hunset]
    · simp [field, batch?_batchValue h.size_lt h.timeoutSec_lt]
  obtain ⟨id, kind, params, batch, binding⟩ := e
  obtain rfl : binding = none := h.unbound
  have hid : field (("id", .str id) :: batchField ⟨id, kind, params, batch, none⟩) "id" ""
      (text? o) = some id := text?_str o id
  have hkind : field (("kind", .str kind) :: paramsField ⟨id, kind, params, batch, none⟩) "kind" ""
      (text? .gathered) = some kind := rfl
  simp only [entryOf?, hsplit, hinner, hid, hkind, hparams, hbatch, bind, Option.bind_some, pure]

/-! ## Adapters, peers and services -/

theorem tagFree_recordValue {fields : Fields} (h : ∀ f ∈ fields, tagFree f.2 = true) :
    tagFree (recordValue fields) = true := by
  simp only [recordValue, tagFree]
  induction fields with
  | nil => rfl
  | cons f rest ih =>
    obtain ⟨hf, hrest⟩ := List.forall_mem_cons.mp h
    simp only [List.map_cons, entriesTagFree, tagFree, hf, ih hrest, Bool.and_self]

/-- Where an entry is plain, all that is written of it is free of tags. -/
theorem tagFree_entryValue {e : Entry} (h : e.IsPlain) : tagFree (entryValue e) = true := by
  rw [entryValue_eq]
  refine tagFree_recordValue ?_
  have hbatch : tagFree (batchValue e.batch) = true := rfl
  unfold entryFields paramsField batchField
  split <;> split <;> simp [tagFree, h.tagless, hbatch]

theorem tagFree_entries {l : List Entry} (h : ∀ e ∈ l, e.IsPlain) :
    tagFree (.seq (l.map entryValue)) = true := by
  simp only [tagFree]
  induction l with
  | nil => rfl
  | cons e rest ih =>
    obtain ⟨he, hrest⟩ := List.forall_mem_cons.mp h
    simp only [List.map_cons, itemsTagFree, tagFree_entryValue he, ih hrest, Bool.and_self]

/-- A list of entries is read back, in place or gathered. -/
theorem entryList?_seq (o : Origin) {l : List Entry} (h : ∀ e ∈ l, e.IsPlain) :
    entryList? o (.seq (l.map entryValue)) = some l := by
  have hitems : items? o (.seq (l.map entryValue)) = some (l.map entryValue) := by cases o <;> rfl
  have hentries : (l.map entryValue).mapM (entryOf? o) = some l :=
    mapM_map_iff.mpr fun e he => entryOf?_entryValue o (h e he)
  simp only [entryList?, hitems, Option.bind_some, hentries]

/-- The fields of adapters, by name. -/
def listFields (a : Adapters) : Fields :=
  [("checkers", .seq (a.checkers.map entryValue)), ("reporters", .seq (a.reporters.map entryValue))]

/-- The lists of adapters are found in their fields, in place or gathered. -/
theorem lists_listFields (o : Origin) {a : Adapters} (h : a.IsPlain) :
    field (listFields a) "checkers" [] (entryList? o) = some a.checkers ∧
      field (listFields a) "reporters" [] (entryList? o) = some a.reporters :=
  ⟨entryList?_seq o (h .check), entryList?_seq o (h .report)⟩

/-- The adapters of a scope are read back. -/
theorem adapters?_eq {a : Adapters} (h : a.IsPlain) :
    adapters? (.map (adapterFields a)) = some a := by
  have hrecord : record? ["checkers", "reporters"] .direct (.map (adapterFields a)) =
      some (listFields a) :=
    record?_recordValue .direct (listFields a)
      (by decide : ["checkers", "reporters"].Nodup)
  obtain ⟨hchecks, hreports⟩ := lists_listFields .direct h
  simp only [adapters?, hrecord, hchecks, hreports, bind, Option.bind_some, pure]

/-- A peer is read back. Its lists are gathered. -/
theorem peer?_peerValue {p : Peer} (h : p.adapters.IsPlain) : peer? (peerValue p) = some p := by
  have hsplit : split? ["serviceid"] .direct (peerValue p) =
      some ([("serviceid", .str p.service)], listFields p.adapters) := by
    refine split?_recordValue .direct (("serviceid", .str p.service) :: listFields p.adapters)
      (by decide : ["serviceid", "checkers", "reporters"].Nodup) fun f hf => ?_
    rcases List.mem_pair.mp (show f ∈ listFields p.adapters from hf) with rfl | rfl
    · exact tagFree_entries (h .check)
    · exact tagFree_entries (h .report)
  have hinner : embedded? ["checkers", "reporters"] (listFields p.adapters) =
      some (listFields p.adapters) :=
    embedded?_eq (by decide : ["checkers", "reporters"].Nodup)
  have hid : field [("serviceid", .str p.service)] "serviceid" "" (text? .direct) =
      some p.service := rfl
  obtain ⟨hchecks, hreports⟩ := lists_listFields .gathered h
  simp only [peer?, hsplit, hinner, hid, hchecks, hreports, bind, Option.bind_some, pure]

/-- The fields of a service, by name. -/
def serviceFields (s : Service) : Fields :=
  [("serviceid", .str s.id), ("self", .map (adapterFields s.own)),
    ("ingress", .map (adapterFields s.ingress)), ("egress", .map (adapterFields s.egress)),
    ("consumers", mapValue peerValue s.consumers), ("producers", mapValue peerValue s.producers)]

/-- A service is read back. -/
theorem service?_serviceValue {s : Service} (h : ∀ a ∈ s.scopes, a.IsPlain) :
    service? (serviceValue s) = some s := by
  have hrecord : record? ["serviceid", "self", "ingress", "egress", "consumers", "producers"]
      .direct (serviceValue s) = some (serviceFields s) :=
    record?_recordValue .direct (serviceFields s)
      (by decide :
        ["serviceid", "self", "ingress", "egress", "consumers", "producers"].Nodup)
  have hid : field (serviceFields s) "serviceid" "" (text? .direct) = some s.id := rfl
  have hown : field (serviceFields s) "self" {} adapters? = some s.own :=
    adapters?_eq (h s.own (by simp [Service.scopes]))
  have hingress : field (serviceFields s) "ingress" {} adapters? = some s.ingress :=
    adapters?_eq (h s.ingress (by simp [Service.scopes]))
  have hegress : field (serviceFields s) "egress" {} adapters? = some s.egress :=
    adapters?_eq (h s.egress (by simp [Service.scopes]))
  have hconsumers : field (serviceFields s) "consumers" .empty (map? peer?) = some s.consumers :=
    map?_mapValue fun x hx => peer?_peerValue <| h _ <|
      List.mem_append_left _ (List.mem_append_right _ (List.mem_map_of_mem hx))
  have hproducers : field (serviceFields s) "producers" .empty (map? peer?) = some s.producers :=
    map?_mapValue fun x hx => peer?_peerValue <| h _ <|
      List.mem_append_right _ (List.mem_map_of_mem hx)
  simp only [service?, hrecord, hid, hown, hingress, hegress, hconsumers, hproducers, bind,
    Option.bind_some, pure]

/-- A configuration is read back if all its entries can be. -/
theorem ofValue?_toValue {s : Services} (h : s.All fun _ e => e.IsPlain) :
    ofValue? (toValue s) = some s :=
  map?_mapValue fun x hx => service?_serviceValue fun a ha =>
    h a (List.mem_flatMap.mpr ⟨x, hx, ha⟩)

/-! ## Conversion is not written -/

end Services

/-- Adapters with only some of their entries. -/
def Adapters.filter (keep : Method → Entry → Bool) (a : Adapters) : Adapters :=
  ⟨a.checkers.filter (keep .check), a.reporters.filter (keep .report)⟩

/-- A peer with only some of its entries. -/
def Peer.filter (keep : Method → Entry → Bool) (p : Peer) : Peer :=
  { p with adapters := p.adapters.filter keep }

/-- A service with only some of its entries. -/
def Service.filter (keep : Method → Entry → Bool) (s : Service) : Service :=
  { s with
    own := s.own.filter keep, ingress := s.ingress.filter keep, egress := s.egress.filter keep,
    consumers := s.consumers.map (Peer.filter keep),
    producers := s.producers.map (Peer.filter keep) }

/-- A configuration with only some of its entries. -/
def Services.filter (keep : Method → Entry → Bool) (s : Services) : Services :=
  s.map (Service.filter keep)

/-- A configuration without the entries whose kind is not registered for their method. -/
def Services.registered (r : Registries) (s : Services) : Services :=
  s.filter fun m e => (r.builder? e.kind m).isSome

theorem Adapters.of_filter (keep : Method → Entry → Bool) (a : Adapters) (m : Method) :
    (a.filter keep).of m = (a.of m).filter (keep m) := by
  cases m <;> rfl

theorem Service.scopes_filter (keep : Method → Entry → Bool) (s : Service) :
    (s.filter keep).scopes = s.scopes.map (Adapters.filter keep) := by
  simp only [scopes, filter, SortedMap.map, SortedMap.mapWithKey, Peer.filter, List.map_append,
    List.map_cons, List.map_nil, List.map_map]
  rfl

theorem Services.allScopes_filter (keep : Method → Entry → Bool) (s : Services) :
    (s.filter keep).allScopes = s.allScopes.map (Adapters.filter keep) := by
  simp only [allScopes, filter, SortedMap.map, SortedMap.mapWithKey, List.flatMap_map,
    List.map_flatMap, Service.scopes_filter]

/-- What holds of all entries holds of those that are left. -/
theorem Services.All.filter {P : Method → Entry → Prop} {s : Services} (h : s.All P)
    (keep : Method → Entry → Bool) : (s.filter keep).All P := by
  intro a' ha' m e he
  rw [Services.allScopes_filter] at ha'
  obtain ⟨a, ha, rfl⟩ := List.mem_map.mp ha'
  rw [Adapters.of_filter] at he
  exact h a ha m e (List.mem_filter.mp he).1

section

variable {keep keep' : Method → Entry → Bool}

theorem Adapters.filter_congr {a : Adapters} (h : ∀ m, ∀ e ∈ a.of m, keep m e = keep' m e) :
    a.filter keep = a.filter keep' := by
  have hcheckers : a.checkers.filter (keep .check) = a.checkers.filter (keep' .check) :=
    List.filter_congr (h .check)
  have hreporters : a.reporters.filter (keep .report) = a.reporters.filter (keep' .report) :=
    List.filter_congr (h .report)
  simp only [filter, hcheckers, hreporters]

theorem Service.filter_congr {s : Service}
    (h : ∀ a ∈ s.scopes, ∀ m, ∀ e ∈ a.of m, keep m e = keep' m e) :
    s.filter keep = s.filter keep' := by
  have hscope : ∀ a ∈ s.scopes, a.filter keep = a.filter keep' := fun a ha =>
    Adapters.filter_congr (h a ha)
  simp only [scopes, List.forall_mem_append, List.forall_mem_cons, List.forall_mem_map] at hscope
  obtain ⟨⟨⟨hingress, hegress, hown, -⟩, hconsumers⟩, hproducers⟩ := hscope
  have hpeers (peers : SortedMap Peer)
      (hp : ∀ x ∈ peers.entries, x.2.adapters.filter keep = x.2.adapters.filter keep') :
      peers.map (Peer.filter keep) = peers.map (Peer.filter keep') :=
    SortedMap.ext <| List.map_congr_left fun x hx => by simp only [Peer.filter, hp x hx]
  simp only [filter, hingress, hegress, hown, hpeers s.consumers hconsumers,
    hpeers s.producers hproducers]

/-- What is left depends only on which of the entries are kept. -/
theorem Services.filter_congr {s : Services} (h : s.All fun m e => keep m e = keep' m e) :
    s.filter keep = s.filter keep' := by
  refine SortedMap.ext (List.map_congr_left fun x hx => ?_)
  have hservice : x.2.filter keep = x.2.filter keep' :=
    Service.filter_congr fun a ha => h a (List.mem_flatMap.mpr ⟨x, hx, ha⟩)
  exact congrArg (Prod.mk x.1) hservice

end

namespace Services

open Yaml (Value)

/-- In a configuration that was not converted yet, an entry stays if its kind is registered. -/
theorem IsRaw.filter_stays {s : Services} (h : s.IsRaw) (r : Registries) :
    s.filter (Entry.stays r) = s.registered r := by
  refine filter_congr fun a ha m e he => ?_
  have hbinding : e.binding = none := h a ha m e he
  simp only [Entry.stays, hbinding, Option.isSome_none, Bool.false_or]

/-- A converted list is written like the entries that stay. -/
theorem map_entryValue_convertList (r : Registries) (m : Method) (scope : String) (l : List Entry)
    (i : Nat) :
    (convertList r m scope i l).value.map entryValue =
      (l.filter (Entry.stays r m)).map entryValue := by
  -- the binding of an entry is not looked at
  have hvalue : entryValue = entryValue ∘ Entry.written := rfl
  rw [hvalue, ← List.map_map, ← List.map_map, map_written_convertList]

theorem adapterFields_convert (r : Registries) (scope : String) (a : Adapters) :
    adapterFields (a.convert r scope).value = adapterFields (a.filter (Entry.stays r)) := by
  simp only [adapterFields, Adapters.convert, Adapters.filter, map_entryValue_convertList]

theorem peerValue_convert (r : Registries) (scope : String) (p : Peer) :
    peerValue (p.convert r scope).value = peerValue (p.filter (Entry.stays r)) := by
  simp only [peerValue, Peer.convert, Peer.filter, adapterFields_convert]

/-- Maps whose values are written alike are written alike. -/
theorem mapValue_congr {α β : Type} {write : β → Value} {f : String → α → β} {g : α → β}
    (h : ∀ k a, write (f k a) = write (g a)) (m : SortedMap α) :
    mapValue write (m.mapWithKey f) = mapValue write (m.map g) := by
  simp only [mapValue, SortedMap.map, SortedMap.mapWithKey, List.map_map, Function.comp_def, h]

theorem serviceValue_convert (r : Registries) (name : String) (s : Service) :
    serviceValue (s.convert r name).value = serviceValue (s.filter (Entry.stays r)) := by
  have hconsumers := mapValue_congr
    (fun peer => peerValue_convert r s!"{name}.Consumers.{peer}") s.consumers
  have hproducers := mapValue_congr
    (fun peer => peerValue_convert r s!"{name}.Producers.{peer}") s.producers
  simp only [serviceValue, Service.convert, Service.filter, SortedMap.convert,
    adapterFields_convert, hconsumers, hproducers]

/-- A converted configuration is written like its entries that stay. -/
theorem toValue_convert (r : Registries) (s : Services) :
    toValue (s.convert r).value = toValue (s.filter (Entry.stays r)) :=
  mapValue_congr (serviceValue_convert r) s

/-- Reading what was written of a configuration that was read gives it again. Converted or
not makes no difference to what is written, but for the entries whose kind is not
registered, which are gone. -/
theorem reads_as_written {v : Value} {s : Services} (h : ofValue? v = some s) :
    ofValue? (toValue s) = some s ∧
      ∀ r : Registries, toValue (s.convert r).value = toValue (s.registered r) ∧
        ofValue? (toValue (s.convert r).value) = some (s.registered r) := by
  have hplain : s.All fun _ e => e.IsPlain := all_of_ofValue? isPlain_of_entryOf? h
  have hraw : s.IsRaw := all_of_ofValue? binding_of_entryOf? h
  refine ⟨ofValue?_toValue hplain, fun r => ?_⟩
  have hwritten : toValue (s.convert r).value = toValue (s.registered r) := by
    rw [toValue_convert, hraw.filter_stays]
  refine ⟨hwritten, ?_⟩
  rw [hwritten]
  exact ofValue?_toValue (hplain.filter _)

/-- A document with a peer, whose entries are gathered, and hints in the order of their names. -/
def peerDocument : Value :=
  .map [(.str "books", .map [(.str "consumers", .map [(.str "shelf", .map [
    (.str "checkers", .seq [.map [(.str "kind", .str "whitelist"), (.str "params", .null),
      (.str "batchparams", .seq [.int 5, .int 10])]])])])])]

/-- The services of the document. -/
def peerServices : Services :=
  ⟨[("books", {
    consumers := ⟨[("shelf", {
      adapters := { checkers := [{ kind := "whitelist", batch := ⟨5, 10⟩ }] } })], by decide⟩ })],
    by decide⟩

theorem reads_as_written_peer :
    ofValue? peerDocument = some peerServices ∧
      ofValue? (toValue peerServices) = some peerServices ∧
      ∀ r : Registries,
        toValue (peerServices.convert r).value = toValue (peerServices.registered r) ∧
        ofValue? (toValue (peerServices.convert r).value) = some (peerServices.registered r) := by
  have hread : ofValue? peerDocument = some peerServices := by rfl
  exact ⟨hread, reads_as_written hread⟩

end Services

end ServiceControl
