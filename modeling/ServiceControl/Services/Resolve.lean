import ServiceControl.Services.Basic

/-!
# Resolution

The entries that apply to a call come from six scopes, in this order: those of every service
(ingress, egress and own), the source's egress, the destination's ingress, and what the destination
has for the source. Only entries that were converted without a fault count.
-/

namespace ServiceControl

/-- A call for a method from one service to another. -/
structure CallKey where
  source : String
  destination : String
  method : Method
  deriving DecidableEq, Repr

/-- Whether an entry was converted without a fault. -/
def Entry.isActive (e : Entry) : Bool :=
  match e.binding with
  | some b => b.params?.isSome
  | none => false

/-- The active entries of a method. -/
def Adapters.active (a : Adapters) (m : Method) : List Entry := (a.of m).filter Entry.isActive

/-- The scopes that apply to a call, in order. -/
def Services.scopes (s : Services) (k : CallKey) : List Adapters :=
  let every := match s.find? everyService with
    | some e => [e.ingress, e.egress, e.own]
    | none => []
  let source := match s.find? k.source with
    | some e => [e.egress]
    | none => []
  let destination := match s.find? k.destination with
    | some e => e.ingress :: ((e.consumers.find? k.source).map (·.adapters)).toList
    | none => []
  every ++ source ++ destination

/-- The entries that apply to a call, in order. -/
def Services.resolve (s : Services) (k : CallKey) : List Entry :=
  (s.scopes k).flatMap (·.active k.method)

end ServiceControl
