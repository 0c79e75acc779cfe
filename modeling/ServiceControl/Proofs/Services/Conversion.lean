import Mathlib.Data.List.Basic
import ServiceControl.Proofs.Services.Scopes

/-!
# What conversion does

Conversion walks through a configuration and treats each entry on its own: what becomes of an entry
depends on the entry, on the path of its place and on the registries, and on nothing else that is
configured. So the lists of a converted configuration are the outcomes of the entries that were
there, in their order, the problems are those of the entries in the order of the walk, and all that
is not an entry stays as it was.
-/

namespace ServiceControl

/-- What becomes of an entry at a path: what is left of it in its list, and the problem that is
reported. -/
inductive Entry.Becomes (r : Registries) (m : Method) (path : String) (e : Entry) :
    Option Entry → Option ConversionError → Prop where
  /-- A bound entry is left alone. -/
  | kept {b : Binding} : e.binding = some b → Becomes r m path e (some e) none
  /-- An entry whose kind nobody registered for the method is removed. -/
  | removed : e.binding = none → r.builder? e.kind m = none →
      Becomes r m path e none (some (.unavailable path e.kind))
  /-- The params are of the declared types, and a builder of checkers accepts them. -/
  | typed {b : Builder} {p : Params} : e.binding = none → r.builder? e.kind m = some b →
      decode b.schema e.params = .ok p → (∀ c, b = .checker c → c.validate p = .ok ()) →
      Becomes r m path e (some { e with binding := some ⟨path, b, .ok p⟩ }) none
  /-- The params are not of the declared types. -/
  | undecodable {b : Builder} {f : DecodeError} : e.binding = none →
      r.builder? e.kind m = some b → decode b.schema e.params = .error f →
      Becomes r m path e (some { e with binding := some ⟨path, b, .error (.decode f)⟩ })
        (some (.fault path (.decode f)))
  /-- The builder, which is one of checkers, does not accept the params. -/
  | invalid {c : CheckerBuilder} {p : Params} {f : AdapterError} : e.binding = none →
      r.builder? e.kind m = some (.checker c) → decode c.schema e.params = .ok p →
      c.validate p = .error f →
      Becomes r m path e (some { e with binding := some ⟨path, .checker c, .error (.invalid f)⟩ })
        (some (.fault path (.invalid f)))

/-- Conversion makes of an entry what should become of it. -/
theorem Entry.becomes_convert (r : Registries) (m : Method) (path : String) (e : Entry) :
    e.Becomes r m path (e.convert r m path).1 (e.convert r m path).2 := by
  unfold convert
  cases hbinding : e.binding with
  | some b => exact .kept hbinding
  | none =>
    cases hbuilder : r.builder? e.kind m with
    | none => exact .removed hbinding hbuilder
    | some b =>
      simp only [resolve]
      cases hdecode : decode b.schema e.params with
      | error f => exact .undecodable hbinding hbuilder hdecode
      | ok p =>
        cases b with
        | consumer c => exact .typed hbinding hbuilder hdecode (fun c hc => by cases hc)
        | checker c =>
          simp only [Builder.validate]
          cases hvalidate : c.validate p with
          | error f => exact .invalid hbinding hbuilder hdecode hvalidate
          | ok _ =>
            exact .typed hbinding hbuilder hdecode fun c' hc => by
              obtain rfl := Builder.checker.inj hc
              exact hvalidate

/-- An entry as it was written. -/
def Entry.written (e : Entry) : Entry := { e with binding := none }

/-- Whether an entry stays in a list of a method: if it is bound, or if its kind is registered for
the method. -/
def Entry.stays (r : Registries) (m : Method) (e : Entry) : Bool :=
  e.binding.isSome || (r.builder? e.kind m).isSome

/-- An entry that stays keeps all that was written. -/
theorem Entry.Becomes.map_written {r : Registries} {m : Method} {path : String} {e : Entry}
    {left : Option Entry} {problem : Option ConversionError} (h : e.Becomes r m path left problem) :
    left.map Entry.written = (Option.guard (Entry.stays r m) e).map Entry.written := by
  cases h with
  | kept hb => simp [Option.guard, stays, hb]
  | removed hb hnone => simp [Option.guard, stays, hb, hnone]
  | typed hb hsome | undecodable hb hsome | invalid hb hsome =>
    simp [Option.guard, stays, hb, hsome, written]

/-- An entry in its place. -/
structure Placed where
  service : String
  scope : Scope
  method : Method
  /-- How many entries stand before it in its list. -/
  index : Nat
  entry : Entry

/-- The path of an entry. -/
def Placed.path (x : Placed) : String := s!"{x.method.path (x.scope.path x.service)}[{x.index}]"

/-- What conversion makes of an entry in its place. -/
def Placed.convert (r : Registries) (x : Placed) : Option Entry × Option ConversionError :=
  x.entry.convert r x.method x.path

namespace Services

/-- The entries of a list in their places. -/
def placedAt (s : Services) (name : String) (scope : Scope) (m : Method) : List Placed :=
  (s.listAt name scope m).zipIdx.map fun x => ⟨name, scope, m, x.2, x.1⟩

/-- All entries in their places, in the order of the walk: services by their names, the scopes of
each, its peers by their names, and checkers before reporters. -/
def placed (s : Services) : List Placed :=
  s.entries.flatMap fun x => x.2.scopeNames.flatMap fun scope =>
    [Method.check, Method.report].flatMap (s.placedAt x.1 scope)

end Services

/-- A service without its entries: what is left are identifiers and the names of peers. -/
def Service.bare (s : Service) : Service where
  id := s.id
  consumers := s.consumers.map fun p => { p with adapters := {} }
  producers := s.producers.map fun p => { p with adapters := {} }

/-- A configuration without its entries. -/
def Services.bare (s : Services) : Services := s.map Service.bare

/-- A converted list has what is left of its entries. -/
theorem convertList_value (r : Registries) (m : Method) (scope : String) (l : List Entry)
    (i : Nat) :
    (convertList r m scope i l).value =
      (l.zipIdx i).filterMap fun x => (x.1.convert r m s!"{scope}[{x.2}]").1 := by
  induction l generalizing i with
  | nil => rfl
  | cons e rest ih =>
    simp only [convertList, List.zipIdx_cons, List.filterMap_cons, ih]
    cases (e.convert r m s!"{scope}[{i}]").1 <;> rfl

/-- A converted list has what was written in the entries that stay, in order. -/
theorem map_written_convertList (r : Registries) (m : Method) (scope : String) (l : List Entry)
    (i : Nat) :
    (convertList r m scope i l).value.map Entry.written =
      (l.filter (Entry.stays r m)).map Entry.written := by
  have hwritten (x : Entry × Nat) :
      (x.1.convert r m s!"{scope}[{x.2}]").1.map Entry.written =
        (Option.guard (Entry.stays r m) x.1).map Entry.written :=
    (Entry.becomes_convert r m _ x.1).map_written
  calc (convertList r m scope i l).value.map Entry.written
      = (l.zipIdx i).filterMap fun x =>
          (x.1.convert r m s!"{scope}[{x.2}]").1.map Entry.written := by
        rw [convertList_value, List.map_filterMap]
    _ = ((l.zipIdx i).map Prod.fst).filterMap fun e =>
          (Option.guard (Entry.stays r m) e).map Entry.written := by
        rw [List.filterMap_map]
        exact List.filterMap_congr fun x _ => hwritten x
    _ = (l.filter (Entry.stays r m)).map Entry.written := by
        rw [List.zipIdx_map_fst, ← List.map_filterMap, List.filterMap_eq_filter]

/-- The problems of a list are those of its entries. -/
theorem convertList_errors (r : Registries) (m : Method) (scope : String) (l : List Entry)
    (i : Nat) :
    (convertList r m scope i l).errors =
      (l.zipIdx i).filterMap fun x => (x.1.convert r m s!"{scope}[{x.2}]").2 := by
  induction l generalizing i with
  | nil => rfl
  | cons e rest ih =>
    simp only [convertList, List.zipIdx_cons, List.filterMap_cons, ih]
    cases (e.convert r m s!"{scope}[{i}]").2 <;> rfl

/-- Adapters are converted list by list. -/
theorem Adapters.of_convert (r : Registries) (scope : String) (a : Adapters) (m : Method) :
    (a.convert r scope).value.of m = (convertList r m (m.path scope) 0 (a.of m)).value := by
  cases m <;> rfl

theorem Adapters.convert_errors (r : Registries) (scope : String) (a : Adapters) :
    (a.convert r scope).errors = [Method.check, Method.report].flatMap fun m =>
      (convertList r m (m.path scope) 0 (a.of m)).errors := by
  simp only [Adapters.convert, List.flatMap_cons, List.flatMap_nil, List.append_nil, Method.path,
    Adapters.of]

namespace Service

/-- The scopes of a converted service are its scopes, converted. -/
theorem at?_convert (r : Registries) (name : String) (s : Service) (scope : Scope) :
    (s.convert r name).value.at? scope =
      (s.at? scope).map fun a => (a.convert r (scope.path name)).value := by
  cases scope with
  | ingress | egress | own => rfl
  | consumer peer | producer peer =>
    simp only [Service.convert, at?, SortedMap.convert, SortedMap.find?_mapWithKey, Option.map_map]
    rfl

/-- Conversion keeps the identifiers of a service and of its peers. -/
theorem bare_convert (r : Registries) (name : String) (s : Service) :
    (s.convert r name).value.bare = s.bare := by
  simp only [bare, Service.convert, SortedMap.convert, SortedMap.map,
    SortedMap.mapWithKey_mapWithKey, Peer.convert]

/-- The problems in adapters for peers are those of the peers' scopes. -/
theorem flatMap_peers (peers : SortedMap Peer) (toScope : String → Scope) (s : Service)
    (hscope : ∀ peer, s.at? (toScope peer) = (peers.find? peer).map (·.adapters))
    (f : Scope → Adapters → List ConversionError) :
    (peers.entries.flatMap fun x => f (toScope x.1) x.2.adapters) =
      (peers.keys.map toScope).flatMap fun scope =>
        match s.at? scope with
        | some a => f scope a
        | none => [] := by
  simp only [SortedMap.keys, List.map_map, List.flatMap_map]
  refine List.flatMap_congr fun x hx => ?_
  simp only [Function.comp_apply, hscope, SortedMap.find?_of_mem hx, Option.map_some]

/-- The problems of a service are those of its scopes, in order. -/
theorem convert_errors (r : Registries) (name : String) (s : Service) :
    (s.convert r name).errors = s.scopeNames.flatMap fun scope =>
      match s.at? scope with
      | some a => (a.convert r (scope.path name)).errors
      | none => [] := by
  simp only [scopeNames, List.flatMap_append, List.flatMap_cons, List.flatMap_nil, List.append_nil]
  rw [← flatMap_peers s.consumers .consumer s (fun _ => rfl) fun scope a =>
      (a.convert r (scope.path name)).errors,
    ← flatMap_peers s.producers .producer s (fun _ => rfl) fun scope a =>
      (a.convert r (scope.path name)).errors]
  simp only [Service.convert, SortedMap.convert, Peer.convert, at?, Scope.path, List.append_assoc]

end Service

namespace Services

/-- The scopes of a converted configuration are its scopes, converted. -/
theorem at?_convert (r : Registries) (s : Services) (name : String) (scope : Scope) :
    (s.convert r).value.at? name scope =
      (s.at? name scope).map fun a => (a.convert r (scope.path name)).value := by
  simp only [at?, Services.convert, SortedMap.convert, SortedMap.find?_mapWithKey]
  cases s.find? name with
  | none => rfl
  | some service => exact service.at?_convert r name scope

/-- A converted list has what conversion makes of the entries in their places. -/
theorem listAt_convert (r : Registries) (s : Services) (name : String) (scope : Scope)
    (m : Method) :
    (s.convert r).value.listAt name scope m =
      (s.placedAt name scope m).filterMap fun x => (x.convert r).1 := by
  simp only [placedAt, listAt, s.at?_convert r name scope]
  cases s.at? name scope with
  | none => rfl
  | some a =>
    simp only [Option.map_some, Adapters.of_convert, convertList_value, List.filterMap_map]
    rfl

/-- The problems of a list are those of its entries in their places. -/
theorem convertList_errors_eq (s : Services) (r : Registries) {name : String} {scope : Scope}
    {a : Adapters} (ha : s.at? name scope = some a) (m : Method) :
    (convertList r m (m.path (scope.path name)) 0 (a.of m)).errors =
      (s.placedAt name scope m).filterMap fun x => (x.convert r).2 := by
  simp only [placedAt, listAt, ha, convertList_errors, List.filterMap_map]
  rfl

/-- The problems of a conversion are those of the entries in their places, in the order of the
walk. -/
theorem convert_errors (r : Registries) (s : Services) :
    (s.convert r).errors = s.placed.filterMap fun x => (x.convert r).2 := by
  -- both sides are walks: over services, over the scopes of each, and over its two lists
  simp only [placed, List.filterMap_flatMap, Services.convert, SortedMap.convert]
  refine List.flatMap_congr fun x hx => ?_
  rw [Service.convert_errors]
  refine List.flatMap_congr fun scope _ => ?_
  have hat : s.at? x.1 scope = x.2.at? scope := by
    rw [at?, SortedMap.find?_of_mem hx, Option.bind_some]
  cases ha : x.2.at? scope with
  | none => simp [placedAt, listAt, hat, ha]
  | some a =>
    simp only [Adapters.convert_errors, s.convertList_errors_eq r (hat.trans ha)]

/-- Conversion changes nothing but lists of entries. -/
theorem bare_convert (r : Registries) (s : Services) : (s.convert r).value.bare = s.bare := by
  simp only [bare, Services.convert, SortedMap.convert, SortedMap.map,
    SortedMap.mapWithKey_mapWithKey, Service.bare_convert]

/-- The lists of a converted configuration have what was written in the entries that stay. -/
theorem map_written_listAt_convert (r : Registries) (s : Services) (name : String) (scope : Scope)
    (m : Method) :
    ((s.convert r).value.listAt name scope m).map Entry.written =
      ((s.listAt name scope m).filter (Entry.stays r m)).map Entry.written := by
  simp only [listAt, s.at?_convert r name scope]
  cases s.at? name scope with
  | none => rfl
  | some a => simp only [Option.map_some, Adapters.of_convert, map_written_convertList]

/-- Conversion keeps all names and identifiers, and treats each entry on its own: each list has what
is left of its entries, which are those that stay, with all that was written in them, and the
problems are those of the entries in the order of the walk. -/
theorem convert_effect (r : Registries) (s : Services) :
    ∃ outcome : Placed → Option Entry × Option ConversionError,
      (∀ x : Placed, x.entry.Becomes r x.method x.path (outcome x).1 (outcome x).2) ∧
      (∀ name scope m, (s.convert r).value.listAt name scope m =
        (s.placedAt name scope m).filterMap fun x => (outcome x).1) ∧
      (∀ name scope m, ((s.convert r).value.listAt name scope m).map Entry.written =
        ((s.listAt name scope m).filter (Entry.stays r m)).map Entry.written) ∧
      (s.convert r).value.bare = s.bare ∧
      (s.convert r).errors = s.placed.filterMap fun x => (outcome x).2 :=
  ⟨Placed.convert r, fun x => x.entry.becomes_convert r x.method x.path, s.listAt_convert r,
    s.map_written_listAt_convert r, s.bare_convert r, s.convert_errors r⟩

end Services

end ServiceControl
