import ServiceControl.Adapter.Basic
import ServiceControl.Params.Decode

/-!
# Services

What applies to calls is configured from the point of view of each service: adapters for its own
calls, for calls to it, for calls from it, and for calls from and to given peers. An entry names the
kind of an adapter and its untyped params; conversion binds it to a builder once.
-/

namespace ServiceControl

/-- The service whose rules apply to every call. -/
def everyService : String := "_EVERY_SERVICE_"

/-- The two things that services ask of the gateway. -/
inductive Method where
  | check
  | report
  deriving DecidableEq, Repr

/-- Hints about batches. They are kept and written, and nothing acts on them. -/
structure BatchHint where
  size : Nat := 0
  timeoutSec : Nat := 0
  deriving DecidableEq, Repr, Inhabited

/-- Why an entry is disabled. -/
inductive Fault where
  | decode (e : DecodeError)
  | invalid (e : AdapterError)
  deriving DecidableEq, Repr

/-- The wording of a fault. -/
def Fault.message : Fault → String
  | decode e => e.message
  | invalid e => e.message

/-- What conversion found out about an entry. -/
structure Binding where
  /-- Where the entry stands. -/
  path : String
  builder : Builder
  /-- The typed params, unless the entry is disabled. -/
  result : Except Fault Params

namespace Binding

/-- The typed params of an entry that is not disabled. -/
def params? (b : Binding) : Option Params :=
  match b.result with
  | .ok p => some p
  | .error _ => none

/-- Why the entry is disabled, with its place. -/
def error? (b : Binding) : Option String :=
  match b.result with
  | .ok _ => none
  | .error f => some s!"{b.path}: {f.message}"

end Binding

/-- One adapter: what to build, and settings around it. -/
structure Entry where
  id : String := ""
  kind : String := ""
  params : Yaml.Value := .null
  batch : BatchHint := {}
  /-- Set by conversion. -/
  binding : Option Binding := none
  deriving Inhabited

/-- The adapters of one scope by method, in order. -/
structure Adapters where
  checkers : List Entry := []
  reporters : List Entry := []
  deriving Inhabited

/-- The list of a method. -/
def Adapters.of (a : Adapters) : Method → List Entry
  | .check => a.checkers
  | .report => a.reporters

/-- Adds an entry at the end of the list of a method. -/
def Adapters.add (a : Adapters) (m : Method) (e : Entry) : Adapters :=
  match m with
  | .check => { a with checkers := a.checkers ++ [e] }
  | .report => { a with reporters := a.reporters ++ [e] }

/-- The adapters for one peer. -/
structure Peer where
  service : String := ""
  adapters : Adapters := {}
  deriving Inhabited

/-- The configuration of one service. -/
structure Service where
  id : String := ""
  /-- For calls that the service issues itself. -/
  own : Adapters := {}
  /-- For calls to the service. -/
  ingress : Adapters := {}
  /-- For calls from the service. -/
  egress : Adapters := {}
  /-- For calls from a peer to the service. -/
  consumers : SortedMap Peer := .empty
  /-- For calls from the service to a peer. -/
  producers : SortedMap Peer := .empty
  deriving Inhabited

/-- The configuration of all services by their names. -/
abbrev Services := SortedMap Service

/-- Puts a service under its own name, in place of an earlier one. -/
def Services.put (s : Services) (service : Service) : Services := s.insert service.id service

/-- Equality of bindings, builders told apart by their tokens. -/
def Binding.same (a b : Binding) : Bool :=
  a.path == b.path && a.builder.same b.builder && match a.result, b.result with
    | .ok p, .ok q => p == q
    | .error e, .error f => e == f
    | _, _ => false

/-- Equality of entries, builders told apart by their tokens. -/
def Entry.same (a b : Entry) : Bool :=
  a.id == b.id && a.kind == b.kind && a.params == b.params && a.batch == b.batch &&
    match a.binding, b.binding with
    | some a, some b => a.same b
    | none, none => true
    | _, _ => false

/-- Equality of lists by a test of their items. -/
def sameLists (same : α → α → Bool) : List α → List α → Bool
  | [], [] => true
  | a :: r, b :: s => same a b && sameLists same r s
  | _, _ => false

/-- Equality of adapters, builders told apart by their tokens. -/
def Adapters.same (a b : Adapters) : Bool :=
  sameLists Entry.same a.checkers b.checkers && sameLists Entry.same a.reporters b.reporters

/-- Equality of peers, builders told apart by their tokens. -/
def Peer.same (a b : Peer) : Bool := a.service == b.service && a.adapters.same b.adapters

/-- Equality of maps by a test of their values. -/
def sameMaps (same : α → α → Bool) (a b : SortedMap α) : Bool :=
  sameLists (fun x y => x.1 == y.1 && same x.2 y.2) a.entries b.entries

/-- Equality of services, builders told apart by their tokens. -/
def Service.same (a b : Service) : Bool :=
  a.id == b.id && a.own.same b.own && a.ingress.same b.ingress && a.egress.same b.egress &&
    sameMaps Peer.same a.consumers b.consumers && sameMaps Peer.same a.producers b.producers

/-- Equality of configurations, builders told apart by their tokens. -/
def Services.same (a b : Services) : Bool := sameMaps Service.same a b

end ServiceControl
