import ServiceControl.Adapter.Registry
import ServiceControl.Services.Basic

/-!
# Conversion

Conversion binds every entry that is not bound yet to the builder of its kind. Entries of unknown
kind are removed, entries whose params cannot be used stay and are disabled, and entries that are
bound already are left alone. The places in paths count the entries of the list as it was before.
-/

namespace ServiceControl

/-- A problem with one entry. -/
inductive ConversionError where
  /-- No builder has the kind. -/
  | unavailable (path kind : String)
  /-- The params cannot be used. -/
  | fault (path : String) (f : Fault)
  deriving DecidableEq, Repr

namespace ConversionError

/-- Where the entry stands. -/
def path : ConversionError → String
  | unavailable path _ => path
  | fault path _ => path

/-- The wording of a problem. -/
def message : ConversionError → String
  | unavailable path kind => s!"{path}: Adapter of type '{kind}' is not available"
  | fault path f => s!"{path}: {f.message}"

end ConversionError

/-- The builder of a kind for the entries of a method. -/
def Registries.builder? (r : Registries) (kind : String) : Method → Option Builder
  | .check => (r.checkers.get? kind).map .checker
  | .report => (r.consumers.get? kind).map .consumer

namespace Entry

/-- Typed params of an entry, or why it is disabled. -/
def resolve (e : Entry) (b : Builder) : Except Fault Params :=
  match decode b.schema e.params with
  | .error f => .error (.decode f)
  | .ok p =>
    match b.validate p with
    | .error f => .error (.invalid f)
    | .ok () => .ok p

/-- Converts an entry at a path. -/
def convert (r : Registries) (m : Method) (path : String) (e : Entry) :
    Option Entry × Option ConversionError :=
  if e.binding.isSome then (some e, none)
  else
    match r.builder? e.kind m with
    | none => (none, some (.unavailable path e.kind))
    | some b =>
      let result := e.resolve b
      let error := match result with
        | .ok _ => none
        | .error f => some (.fault path f)
      (some { e with binding := some ⟨path, b, result⟩ }, error)

end Entry

/-- What conversion makes of a part: the part, and the problems in the order of the walk. -/
structure Converted (α : Type) where
  value : α
  errors : List ConversionError

/-- Converts a list; the index is the place of its first entry. -/
def convertList (r : Registries) (m : Method) (scope : String) :
    Nat → List Entry → Converted (List Entry)
  | _, [] => ⟨[], []⟩
  | i, e :: rest =>
    let (e', error) := e.convert r m s!"{scope}[{i}]"
    let c := convertList r m scope (i + 1) rest
    ⟨e'.toList ++ c.value, error.toList ++ c.errors⟩

/-- Converts the adapters of a scope. -/
def Adapters.convert (r : Registries) (scope : String) (a : Adapters) : Converted Adapters :=
  let c := convertList r .check (scope ++ ".Checkers") 0 a.checkers
  let d := convertList r .report (scope ++ ".Reporters") 0 a.reporters
  ⟨⟨c.value, d.value⟩, c.errors ++ d.errors⟩

/-- Converts the values of a map in the order of its keys. -/
def SortedMap.convert (f : String → α → Converted α) (m : SortedMap α) : Converted (SortedMap α) :=
  ⟨m.mapWithKey fun k v => (f k v).value, m.entries.flatMap fun e => (f e.1 e.2).errors⟩

/-- Converts a peer. -/
def Peer.convert (r : Registries) (scope : String) (p : Peer) : Converted Peer :=
  let c := p.adapters.convert r scope
  ⟨{ p with adapters := c.value }, c.errors⟩

/-- Converts a service. -/
def Service.convert (r : Registries) (name : String) (s : Service) : Converted Service :=
  let ingress := s.ingress.convert r s!"{name}.Ingress"
  let egress := s.egress.convert r s!"{name}.Egress"
  let own := s.own.convert r s!"{name}.Self"
  let consumers := s.consumers.convert fun peer p => p.convert r s!"{name}.Consumers.{peer}"
  let producers := s.producers.convert fun peer p => p.convert r s!"{name}.Producers.{peer}"
  ⟨{ s with
      ingress := ingress.value, egress := egress.value, own := own.value,
      consumers := consumers.value, producers := producers.value },
    ingress.errors ++ egress.errors ++ own.errors ++ consumers.errors ++ producers.errors⟩

/-- Converts all services. -/
def Services.convert (r : Registries) (s : Services) : Converted Services :=
  SortedMap.convert (fun name service => service.convert r name) s

end ServiceControl
