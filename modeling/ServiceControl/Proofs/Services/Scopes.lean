import ServiceControl.Services.Convert
import ServiceControl.Services.Resolve

/-!
# Lists of entries by their places

A list of entries is named by its service, its scope there and its method. A service that is not
configured and a peer without adapters have empty lists, so every name stands for a list, and what
is left of a configuration without its lists are keys and the identifiers of services and peers.
-/

namespace ServiceControl

/-- The scopes of a service. -/
inductive Scope where
  | ingress
  | egress
  | own
  /-- For calls from a peer. -/
  | consumer (peer : String)
  /-- For calls to a peer. -/
  | producer (peer : String)
  deriving DecidableEq, Repr

/-- The path of a scope of a service. -/
def Scope.path (service : String) : Scope → String
  | .ingress => s!"{service}.Ingress"
  | .egress => s!"{service}.Egress"
  | .own => s!"{service}.Self"
  | .consumer peer => s!"{service}.Consumers.{peer}"
  | .producer peer => s!"{service}.Producers.{peer}"

/-- The path of the list of a method in a scope. -/
def Method.path (scope : String) : Method → String
  | .check => scope ++ ".Checkers"
  | .report => scope ++ ".Reporters"

/-- The adapters of a scope; only a configured peer has some. -/
def Service.at? (s : Service) : Scope → Option Adapters
  | .ingress => some s.ingress
  | .egress => some s.egress
  | .own => some s.own
  | .consumer peer => (s.consumers.find? peer).map (·.adapters)
  | .producer peer => (s.producers.find? peer).map (·.adapters)

/-- The scopes that a service has, in the order in which they are written. -/
def Service.scopeNames (s : Service) : List Scope :=
  [.ingress, .egress, .own] ++ s.consumers.keys.map .consumer ++ s.producers.keys.map .producer

namespace Services

/-- The adapters of a scope of a service, if both are configured. -/
def at? (s : Services) (name : String) (scope : Scope) : Option Adapters :=
  (s.find? name).bind (·.at? scope)

/-- The entries of a scope of a service for a method. -/
def listAt (s : Services) (name : String) (scope : Scope) (m : Method) : List Entry :=
  match s.at? name scope with
  | some a => a.of m
  | none => []

end Services

end ServiceControl
