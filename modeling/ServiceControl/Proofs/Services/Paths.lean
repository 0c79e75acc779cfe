import Mathlib.Data.List.Nodup
import ServiceControl.Proofs.Services.Bindings
import ServiceControl.Proofs.Services.Conversion
import ServiceControl.Text.Ascii
import ServiceControl.Text.Cut

/-!
# What a path tells of an entry

Conversion names the place of an entry by a path of dotted pieces: those of the service's name,
those of the scope with the name of a peer, and a last one with the method and the index. The pieces
can be read off a path, but not where the service's name ends, since names may have points of their
own. So two entries have one path exactly if one service's name goes on with a part of the other
one's scope, and paths tell entries apart in every configuration in which no name does so, whatever
the peers are called.
-/

namespace ServiceControl

/-! ### The pieces of a path -/

/-- The pieces of the path of a scope that follow those of the service's name. -/
def Scope.pieces : Scope → List String
  | ingress => ["Ingress"]
  | egress => ["Egress"]
  | own => ["Self"]
  | consumer peer => "Consumers" :: Text.split '.' peer
  | producer peer => "Producers" :: Text.split '.' peer

/-- A scope is known by its pieces. -/
theorem Scope.pieces_injective : Function.Injective Scope.pieces := by
  intro a b h
  cases a <;> cases b <;> simp_all [pieces, (Text.split_injective '.').eq_iff]

theorem Scope.pieces_ne_nil (scope : Scope) : scope.pieces ≠ [] := by
  cases scope <;> exact List.cons_ne_nil _ _

/-- The path of a scope has the pieces of the service's name and those of the scope. -/
theorem Scope.split_path (service : String) (scope : Scope) :
    Text.split '.' (scope.path service) = Text.split '.' service ++ scope.pieces := by
  have hsplit (a b : String) :
      Text.split '.' (a ++ "." ++ b) = Text.split '.' a ++ Text.split '.' b :=
    Text.split_append (by decide) a b
  have hword {word : String} (h : '.' ∉ word.toList) :
      Text.split '.' (service ++ "." ++ word) = Text.split '.' service ++ [word] := by
    rw [hsplit, Text.split_of_notMem h]
  have hpeer {word : String} (h : '.' ∉ word.toList) (peer : String) :
      Text.split '.' (service ++ "." ++ word ++ "." ++ peer) =
        Text.split '.' service ++ word :: Text.split '.' peer := by
    rw [hsplit, hword h, List.append_assoc, List.singleton_append]
  have hpath (word peer : String) :
      service ++ ("." ++ word ++ ".") ++ peer = service ++ "." ++ word ++ "." ++ peer := by
    simp only [String.append_assoc]
  cases scope with
  | ingress => rw [pieces, ← hword (by decide), String.append_assoc]; rfl
  | egress => rw [pieces, ← hword (by decide), String.append_assoc]; rfl
  | own => rw [pieces, ← hword (by decide), String.append_assoc]; rfl
  | consumer peer => rw [pieces, ← hpeer (by decide), ← hpath]; rfl
  | producer peer => rw [pieces, ← hpeer (by decide), ← hpath]; rfl

/-- The name of the list of a method in paths. -/
def Method.listName : Method → String
  | check => "Checkers"
  | report => "Reporters"

theorem Method.listName_injective : Function.Injective Method.listName := by
  rintro (_ | _) (_ | _) h
  · rfl
  · exact absurd h (by decide)
  · exact absurd h (by decide)
  · rfl

/-- The last piece of the path of an entry. -/
def Placed.lastPiece (x : Placed) : String := x.method.listName ++ "[" ++ (x.index.repr ++ "]")

/-- The last piece tells the method and the index. -/
theorem Placed.lastPiece_eq_iff (x y : Placed) :
    x.lastPiece = y.lastPiece ↔ x.method = y.method ∧ x.index = y.index := by
  constructor
  · intro h
    have hname (m : Method) : '[' ∉ m.listName.toList := by cases m <;> decide
    have hcut := congrArg (Text.split '[') h
    rw [lastPiece, lastPiece, Text.split_append (by decide), Text.split_append (by decide),
      Text.split_of_notMem (hname _), Text.split_of_notMem (hname _)] at hcut
    obtain ⟨hmethod, hrest⟩ := List.cons.inj hcut
    have hindex := (String.append_left_inj _).mp (Text.split_injective _ hrest)
    exact ⟨Method.listName_injective hmethod, Text.eq_of_repr_eq hindex⟩
  · rintro ⟨hmethod, hindex⟩
    rw [lastPiece, lastPiece, hmethod, hindex]

/-- The path of an entry has the pieces of the path of its scope and the last one. -/
theorem Placed.split_path (x : Placed) :
    Text.split '.' x.path = Text.split '.' x.service ++ x.scope.pieces ++ [x.lastPiece] := by
  have hlast : '.' ∉ x.lastPiece.toList := by
    have hname : '.' ∉ x.method.listName.toList := by cases x.method <;> decide
    have hdigits : '.' ∉ x.index.repr.toList := fun h =>
      absurd (Text.isDigit_of_mem_repr h) (by decide)
    simp only [lastPiece, String.toList_append, List.mem_append, not_or]
    exact ⟨⟨hname, by decide⟩, hdigits, by decide⟩
  have hmethod : x.method.path (x.scope.path x.service) =
      x.scope.path x.service ++ "." ++ x.method.listName := by
    cases hm : x.method <;> rw [String.append_assoc] <;> rfl
  have hpath : x.path = x.scope.path x.service ++ "." ++ x.lastPiece := by
    have hparts : x.path =
        x.method.path (x.scope.path x.service) ++ "[" ++ x.index.repr ++ "]" := rfl
    simp only [hparts, hmethod, lastPiece, String.append_assoc]
  rw [hpath, Text.split_append (by decide), Text.split_of_notMem hlast, Scope.split_path]

/-! ### Entries with one path -/

/-- The path of one entry passes for the path of another one: the name of the other service goes on
where the name of the one ends, with a part of the scope that ends within the name of a peer, and
what is left of the scope is the scope of the other entry. -/
def Placed.PassesFor (x y : Placed) : Prop :=
  x.method = y.method ∧ x.index = y.index ∧ ∃ part, part ≠ [] ∧
    Text.split '.' y.service = Text.split '.' x.service ++ part ∧
    x.scope.pieces = part ++ y.scope.pieces

/-- Two entries stand at one place. -/
def Placed.SamePlace (x y : Placed) : Prop :=
  x.service = y.service ∧ x.scope = y.scope ∧ x.method = y.method ∧ x.index = y.index

/-- Paths are equal at one place, and where one passes for the other. -/
theorem Placed.path_eq_iff (x y : Placed) :
    x.path = y.path ↔ x.SamePlace y ∨ x.PassesFor y ∨ y.PassesFor x := by
  rw [← (Text.split_injective '.').eq_iff, split_path, split_path, List.append_singleton_inj,
    lastPiece_eq_iff]
  constructor
  · rintro ⟨hpieces, hmethod, hindex⟩
    -- one of the two services' names goes on with a part of the other one's scope
    rcases List.append_eq_append_iff.mp hpieces with
      ⟨part, hservice, hscope⟩ | ⟨part, hservice, hscope⟩
    · by_cases hpart : part = []
      · subst hpart
        rw [List.append_nil] at hservice
        exact .inl ⟨Text.split_injective _ hservice.symm, Scope.pieces_injective hscope, hmethod,
          hindex⟩
      · exact .inr (.inl ⟨hmethod, hindex, part, hpart, hservice, hscope⟩)
    · by_cases hpart : part = []
      · subst hpart
        rw [List.append_nil] at hservice
        exact .inl ⟨Text.split_injective _ hservice, Scope.pieces_injective hscope.symm, hmethod,
          hindex⟩
      · exact .inr (.inr ⟨hmethod.symm, hindex.symm, part, hpart, hservice, hscope⟩)
  · rintro (⟨hservice, hscope, hplace⟩ | ⟨hmethod, hindex, part, -, hservice, hscope⟩ |
      ⟨hmethod, hindex, part, -, hservice, hscope⟩)
    · exact ⟨by rw [hservice, hscope], hplace⟩
    · exact ⟨by rw [hservice, hscope, List.append_assoc], hmethod, hindex⟩
    · exact ⟨by rw [hservice, hscope, List.append_assoc], hmethod.symm, hindex.symm⟩

/-- Where one path passes for another, the other service's name is the one's with the word of a
scope for peers behind it, and possibly more. -/
theorem Placed.PassesFor.exists_word {x y : Placed} (h : x.PassesFor y) :
    ∃ word ∈ ["Consumers", "Producers"],
      Text.split '.' x.service ++ [word] <+: Text.split '.' y.service := by
  obtain ⟨-, -, part, hpart, hservice, hscope⟩ := h
  obtain ⟨word, more, rfl⟩ := List.exists_cons_of_ne_nil hpart
  have hword : word ∈ ["Consumers", "Producers"] := by
    have hmore : more ++ y.scope.pieces ≠ [] := fun hnil =>
      y.scope.pieces_ne_nil (List.append_eq_nil_iff.mp hnil).2
    cases hx : x.scope <;> rw [hx, Scope.pieces, List.cons_append] at hscope <;>
      obtain ⟨rfl, hrest⟩ := List.cons.inj hscope
    case ingress | egress | own => exact absurd hrest.symm hmore
    case consumer | producer => decide
  refine ⟨word, hword, more, ?_⟩
  rw [hservice, List.append_assoc, List.singleton_append]

/-! ### The entries of a configuration -/

section

variable {r : Registries} {m : Method} {path : String} {e : Entry} {left : Option Entry}
  {problem : Option ConversionError}

/-- The state at an entry that was not bound has the path of the entry. -/
theorem Entry.Becomes.statePath_eq (h : e.Becomes r m path left problem) (hraw : e.binding = none) :
    (left.bind fun e => e.binding.map Binding.path) = if e.stays r m then some path else none := by
  cases h with
  | kept hb => cases hraw.symm.trans hb
  | removed _ hnone => simp [stays, hraw, hnone]
  | typed _ hsome | undecodable _ hsome | invalid _ hsome => simp [stays, hsome]

/-- The problem with an entry has the path of the entry. -/
theorem Entry.Becomes.map_path_eq (h : e.Becomes r m path left problem) :
    problem.map ConversionError.path = if problem.isSome then some path else none := by
  cases h <;> rfl

end

/-- Nothing is repeated in lists put together if what comes of an item tells which item it was. -/
theorem nodup_flatMap_of_mark {α β κ : Type*} {l : List α} {f : α → List β} (mark : β → κ)
    (key : α → κ) (hl : (l.map key).Nodup) (hf : ∀ a ∈ l, (f a).Nodup)
    (hmark : ∀ a ∈ l, ∀ b ∈ f a, mark b = key a) : (l.flatMap f).Nodup := by
  refine List.nodup_flatMap.mpr ⟨hf, ?_⟩
  refine (List.pairwise_map.mp hl).imp_of_mem ?_
  intro a a' ha ha' hne b hb hb'
  exact hne ((hmark a ha b hb).symm.trans (hmark a' ha' b hb'))

/-- A service has each scope once. -/
theorem Service.nodup_scopeNames (s : Service) : s.scopeNames.Nodup := by
  have hconsumers : (s.consumers.keys.map Scope.consumer).Nodup :=
    s.consumers.nodup_keys.map fun _ _ => Scope.consumer.inj
  have hproducers : (s.producers.keys.map Scope.producer).Nodup :=
    s.producers.nodup_keys.map fun _ _ => Scope.producer.inj
  simp only [scopeNames, List.nodup_append, hconsumers, hproducers]
  simp

namespace Services

/-- The entries of a list stand at its places. -/
theorem eq_of_mem_placedAt {s : Services} {name : String} {scope : Scope} {m : Method} {x : Placed}
    (hx : x ∈ s.placedAt name scope m) :
    x.service = name ∧ x.scope = scope ∧ x.method = m ∧
      (s.listAt x.service x.scope x.method)[x.index]? = some x.entry := by
  obtain ⟨e, he, rfl⟩ := List.mem_map.mp hx
  exact ⟨rfl, rfl, rfl, List.mk_mem_zipIdx_iff_getElem?.mp he⟩

theorem nodup_placedAt (s : Services) (name : String) (scope : Scope) (m : Method) :
    (s.placedAt name scope m).Nodup := by
  refine List.Nodup.of_map Placed.index ?_
  have hindex : (s.placedAt name scope m).map Placed.index =
      List.range' 0 (s.listAt name scope m).length := by
    rw [placedAt, List.map_map, ← List.zipIdx_map_snd]
    rfl
  exact hindex ▸ List.nodup_range'

/-- The entries of a configuration stand at its places. -/
theorem getElem?_of_mem_placed {s : Services} {x : Placed} (hx : x ∈ s.placed) :
    (s.listAt x.service x.scope x.method)[x.index]? = some x.entry := by
  simp only [placed, List.mem_flatMap] at hx
  obtain ⟨_, _, _, _, _, _, hx⟩ := hx
  exact (eq_of_mem_placedAt hx).2.2.2

/-- What stands at one place is one entry. -/
theorem eq_of_getElem? {s : Services} {x y : Placed}
    (hx : (s.listAt x.service x.scope x.method)[x.index]? = some x.entry)
    (hy : (s.listAt y.service y.scope y.method)[y.index]? = some y.entry)
    (h : x.SamePlace y) : x = y := by
  obtain ⟨hservice, hscope, hmethod, hindex⟩ := h
  have hentry : some x.entry = some y.entry := by
    rw [← hx, ← hy, hservice, hscope, hmethod, hindex]
  cases x
  cases y
  simp_all

/-- Two entries do not stand at one place. -/
theorem eq_of_samePlace {s : Services} {x y : Placed} (hx : x ∈ s.placed) (hy : y ∈ s.placed)
    (h : x.SamePlace y) : x = y :=
  eq_of_getElem? (getElem?_of_mem_placed hx) (getElem?_of_mem_placed hy) h

/-- No entry of a configuration comes up twice in the walk. -/
theorem nodup_placed (s : Services) : s.placed.Nodup := by
  have hscope (name : String) (scope : Scope) :
      ([Method.check, .report].flatMap (s.placedAt name scope)).Nodup :=
    nodup_flatMap_of_mark Placed.method id (by decide) (fun m _ => s.nodup_placedAt name scope m)
      fun m _ x hx => (eq_of_mem_placedAt hx).2.2.1
  refine nodup_flatMap_of_mark Placed.service Prod.fst s.nodup_keys (fun x _ => ?_)
    fun x _ y hy => ?_
  · refine nodup_flatMap_of_mark Placed.scope id ?_ (fun scope _ => hscope x.1 scope) ?_
    · rw [List.map_id]
      exact x.2.nodup_scopeNames
    · intro scope _ y hy
      obtain ⟨m, _, hy⟩ := List.mem_flatMap.mp hy
      exact (eq_of_mem_placedAt hy).2.1
  · obtain ⟨scope, _, hy⟩ := List.mem_flatMap.mp hy
    obtain ⟨m, _, hy⟩ := List.mem_flatMap.mp hy
    exact (eq_of_mem_placedAt hy).1

/-- The adapters of a scope are among those of the configuration. -/
theorem mem_allScopes_of_at? {s : Services} {name : String} {scope : Scope} {a : Adapters}
    (h : s.at? name scope = some a) : a ∈ s.allScopes := by
  obtain ⟨service, hservice, ha⟩ := Option.bind_eq_some_iff.mp h
  refine mem_allScopes hservice ?_
  simp only [Service.scopes, List.mem_append, List.mem_cons, List.mem_map]
  cases scope with
  | ingress | egress | own => simp_all [Service.at?]
  | consumer peer =>
    obtain ⟨p, hp, rfl⟩ := Option.map_eq_some_iff.mp ha
    exact .inl (.inr ⟨(peer, p), SortedMap.mem_entries_of_find? hp, rfl⟩)
  | producer peer =>
    obtain ⟨p, hp, rfl⟩ := Option.map_eq_some_iff.mp ha
    exact .inr ⟨(peer, p), SortedMap.mem_entries_of_find? hp, rfl⟩

/-- No entry of a configuration that was not converted is bound. -/
theorem IsRaw.binding_of_mem_placed {s : Services} (h : s.IsRaw) {x : Placed} (hx : x ∈ s.placed) :
    x.entry.binding = none := by
  have hentry := getElem?_of_mem_placed hx
  unfold listAt at hentry
  split at hentry
  · next a ha => exact h a (mem_allScopes_of_at? ha) x.method x.entry (List.mem_of_getElem? hentry)
  · cases hentry

/-- The paths of the states that conversion left in a configuration, in the order of the walk. -/
def statePaths (s : Services) : List String :=
  s.placed.filterMap fun x => x.entry.binding.map Binding.path

/-- A walk through a converted configuration meets what is left of the entries. -/
theorem filterMap_placed_convert {β : Type*} (r : Registries) (s : Services)
    (f : Entry → Option β) : ((s.convert r).value.placed.filterMap fun x => f x.entry) =
      s.placed.filterMap fun x => (x.convert r).1.bind f := by
  have hlist (t : Services) (name : String) (scope : Scope) (m : Method) :
      (t.placedAt name scope m).filterMap (fun x => f x.entry) =
        (t.listAt name scope m).filterMap f := by
    conv_rhs => rw [← List.zipIdx_map_fst 0 (t.listAt name scope m), List.filterMap_map]
    rw [placedAt, List.filterMap_map]
    rfl
  have hscopes (name : String) (service : Service) :
      (service.convert r name).value.scopeNames = service.scopeNames := by
    simp only [Service.scopeNames, Service.convert, SortedMap.convert, SortedMap.keys,
      SortedMap.mapWithKey, List.map_map]
    rfl
  have hentries : (s.convert r).value.entries =
      s.entries.map fun x => (x.1, (x.2.convert r x.1).value) := rfl
  simp only [placed, List.filterMap_flatMap, hlist, listAt_convert, List.filterMap_filterMap,
    hentries, List.flatMap_map, hscopes]

/-- The states are those of the entries of registered kinds, and each has the path of its entry. -/
theorem statePaths_convert (r : Registries) {s : Services} (h : s.IsRaw) :
    (s.convert r).value.statePaths =
      (s.placed.filter fun x => x.entry.stays r x.method).map Placed.path := by
  rw [statePaths, filterMap_placed_convert r s fun e => e.binding.map Binding.path,
    ← List.filterMap_eq_map, List.filterMap_filter]
  exact List.filterMap_congr fun x hx =>
    (x.entry.becomes_convert r x.method x.path).statePath_eq (h.binding_of_mem_placed hx)

/-- The problems are those of the entries with one, and each has the path of its entry. -/
theorem map_path_convert_errors (r : Registries) (s : Services) :
    (s.convert r).errors.map ConversionError.path =
      (s.placed.filter fun x => (x.convert r).2.isSome).map Placed.path := by
  rw [convert_errors, List.map_filterMap, ← List.filterMap_eq_map, List.filterMap_filter]
  exact List.filterMap_congr fun x _ =>
    (x.entry.becomes_convert r x.method x.path).map_path_eq

/-- No service's name is that of another one with the word of a scope for peers behind it, and
possibly more. -/
def HasPlainNames (s : Services) : Prop :=
  ∀ name ∈ s.keys, ∀ other ∈ s.keys, ∀ word ∈ ["Consumers", "Producers"],
    ¬ Text.split '.' name ++ [word] <+: Text.split '.' other

instance (s : Services) : Decidable s.HasPlainNames := by unfold HasPlainNames; infer_instance

/-- Where names are plain, paths do not pass for others. -/
theorem HasPlainNames.not_passesFor {s : Services} (h : s.HasPlainNames) {x y : Placed}
    (hx : x ∈ s.placed) (hy : y ∈ s.placed) : ¬ x.PassesFor y := by
  intro hpasses
  have hkey {z : Placed} (hz : z ∈ s.placed) : z.service ∈ s.keys := by
    simp only [placed, List.mem_flatMap] at hz
    obtain ⟨e, he, _, _, _, _, hz⟩ := hz
    exact (eq_of_mem_placedAt hz).1 ▸ List.mem_map_of_mem he
  obtain ⟨word, hword, hprefix⟩ := hpasses.exists_word
  exact h x.service (hkey hx) y.service (hkey hy) word hword hprefix

/-- Every state and every problem of a conversion has the path of its entry. Two entries have one
path exactly if one passes for the other. So where no service's name is that of another one with the
word of a scope for peers behind it, no path comes up twice among the entries, their states and the
problems. -/
theorem paths_tell_entries (r : Registries) {s : Services} (hraw : s.IsRaw) :
    (s.convert r).value.statePaths =
      (s.placed.filter fun x => x.entry.stays r x.method).map Placed.path ∧
    (s.convert r).errors.map ConversionError.path =
      (s.placed.filter fun x => (x.convert r).2.isSome).map Placed.path ∧
    s.placed.Nodup ∧
    (∀ x ∈ s.placed, ∀ y ∈ s.placed, x.path = y.path ↔ x = y ∨ x.PassesFor y ∨ y.PassesFor x) ∧
    (s.HasPlainNames → (s.placed.map Placed.path).Nodup ∧ (s.convert r).value.statePaths.Nodup ∧
      ((s.convert r).errors.map ConversionError.path).Nodup) := by
  have hsame {x y : Placed} (hx : x ∈ s.placed) (hy : y ∈ s.placed) :
      x.path = y.path ↔ x = y ∨ x.PassesFor y ∨ y.PassesFor x := by
    rw [Placed.path_eq_iff]
    refine or_congr_left ⟨eq_of_samePlace hx hy, ?_⟩
    rintro rfl
    exact ⟨rfl, rfl, rfl, rfl⟩
  have hstates := statePaths_convert r hraw
  have herrors := map_path_convert_errors r s
  refine ⟨hstates, herrors, s.nodup_placed, fun x hx y hy => hsame hx hy, fun hplain => ?_⟩
  have hpaths : (s.placed.map Placed.path).Nodup := by
    refine s.nodup_placed.map_on fun x hx y hy heq => ?_
    rcases (hsame hx hy).mp heq with hxy | hpasses | hpasses
    · exact hxy
    · exact absurd hpasses (hplain.not_passesFor hx hy)
    · exact absurd hpasses (hplain.not_passesFor hy hx)
  rw [hstates, herrors]
  exact ⟨hpaths, hpaths.sublist (List.filter_sublist.map _),
    hpaths.sublist (List.filter_sublist.map _)⟩

/-- Registries in which checkers of one kind can be built. -/
def openRegistries : Registries where
  checkers := {
    space := "checker"
    builders := .ofList [
      ("open", {
        token := 0
        schema := []
        build _ _ := .ok { name := "open", check := fun _ => .ok none } })] }

/-- Services and peers with points and words for scopes in their names. -/
def dottedServices : Services := .ofList
  [("shop", {
      consumers := .ofList [
        ("web.Ingress", { adapters := { checkers := [{ kind := "open" }, { kind := "gone" }] } }),
        ("web.Self.Checkers[0]", { adapters := { checkers := [{ kind := "open" }] } })] }),
    ("shop.Ingress", { ingress := { checkers := [{ kind := "gone" }, { kind := "open" }] } })]

/-- Points and words for scopes do no harm in the names of peers. -/
theorem paths_tell_entries_dotted :
    dottedServices.IsRaw ∧ dottedServices.HasPlainNames ∧
    (dottedServices.convert openRegistries).value.statePaths =
      ["shop.Consumers.web.Ingress.Checkers[0]", "shop.Consumers.web.Self.Checkers[0].Checkers[0]",
        "shop.Ingress.Ingress.Checkers[1]"] ∧
    (dottedServices.placed.map Placed.path).Nodup ∧
    ((dottedServices.convert openRegistries).errors.map ConversionError.path).Nodup := by
  have hraw : dottedServices.IsRaw := by decide
  have hplain : dottedServices.HasPlainNames := by decide
  obtain ⟨hstates, -, -, -, hnodup⟩ := paths_tell_entries openRegistries hraw
  obtain ⟨hpaths, -, herrors⟩ := hnodup hplain
  exact ⟨hraw, hplain, hstates.trans (by decide +kernel), hpaths, herrors⟩

/-- A service and another one whose name goes on with the first one's scope for a peer. -/
def twinServices : Services := .ofList
  [("shop", {
      consumers := .ofList [
        ("web.Ingress", { adapters := { checkers := [{ kind := "open" }] } })] }),
    ("shop.Consumers.web", { ingress := { checkers := [{ kind := "open" }] } })]

/-- Without plain names, paths may come up twice among entries, states and problems. -/
theorem not_forall_nodup_paths :
    (¬ ∀ s : Services, s.IsRaw → (s.placed.map Placed.path).Nodup) ∧
    (¬ ∀ (r : Registries) (s : Services), s.IsRaw → (s.convert r).value.statePaths.Nodup) ∧
    ¬ ∀ (r : Registries) (s : Services), s.IsRaw →
      ((s.convert r).errors.map ConversionError.path).Nodup := by
  have hraw : twinServices.IsRaw := by decide
  refine ⟨fun h => ?_, fun h => ?_, fun h => ?_⟩
  · exact absurd (h twinServices hraw) (by decide +kernel)
  · exact absurd (h openRegistries twinServices hraw) (by decide +kernel)
  · exact absurd (h {} twinServices hraw) (by decide +kernel)

end Services

end ServiceControl
