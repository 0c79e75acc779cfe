import ServiceControl.Adapter.Basic

/-!
# Registries

A registry maps kinds to builders. The first builder of a kind stays: registering it again changes
nothing, and registering another one is a collision, which changes nothing either.
-/

namespace ServiceControl

/-- Another builder has a kind already. -/
structure Collision where
  space : String
  kind : String
  deriving DecidableEq, Repr

/-- The wording of a collision. -/
def Collision.message (c : Collision) : String :=
  s!"Collision: {c.space} kind '{c.kind}' is already registered with a different builder"

/-- Builders by kind. -/
structure Registry (β : Type) where
  /-- What the builders make, for messages. -/
  space : String
  builders : SortedMap β := .empty

namespace Registry

variable {β : Type} [Identified β]

/-- Registers a builder under a kind. -/
def register (r : Registry β) (kind : String) (builder : β) : Except Collision (Registry β) :=
  match r.builders.find? kind with
  | some first =>
    if Identified.token first = Identified.token builder then .ok r else .error ⟨r.space, kind⟩
  | none => .ok { r with builders := r.builders.insert kind builder }

/-- Registers builders one after another; the first collision ends it. -/
def registerAll (r : Registry β) : List (String × β) → Except Collision (Registry β)
  | [] => .ok r
  | (kind, b) :: rest => do (← r.register kind b).registerAll rest

/-- Registers a builder and ignores a collision. -/
def offer (r : Registry β) (kind : String) (builder : β) : Registry β :=
  match r.register kind builder with
  | .ok r => r
  | .error _ => r

omit [Identified β] in
/-- The builder of a kind. -/
def get? (r : Registry β) (kind : String) : Option β := r.builders.find? kind

omit [Identified β] in
/-- Whether a kind has a builder. -/
def contains (r : Registry β) (kind : String) : Bool := r.builders.contains kind

omit [Identified β] in
/-- The registered kinds in increasing order. -/
def kinds (r : Registry β) : List String := r.builders.keys

omit [Identified β] in
/-- The number of registered kinds. -/
def size (r : Registry β) : Nat := r.builders.size

omit [Identified β] in
/-- Whether no kind is registered. -/
def isEmpty (r : Registry β) : Bool := r.builders.isEmpty

end Registry

/-- The registries of both sorts of adapters. -/
structure Registries where
  checkers : Registry CheckerBuilder := { space := "checker" }
  consumers : Registry ConsumerBuilder := { space := "report consumer" }

end ServiceControl
