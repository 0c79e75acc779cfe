import ServiceControl.Adapter.Page
import ServiceControl.Call.Basic
import ServiceControl.Params.Schema
import ServiceControl.Settings.Basic

/-!
# Adapters

A checker decides about calls, a consumer takes reports. Both are made by builders that are
registered under a kind. Builders are told apart by their tokens: two builders with the same
behaviour are different if their tokens are.
-/

namespace ServiceControl

/-- Why an adapter cannot be used. -/
inductive AdapterError where
  /-- The params have the declared types but make no sense. -/
  | invalidConfig (detail : String)
  /-- The adapter could not be built. -/
  | build (detail : String)
  /-- A check could not be evaluated. -/
  | check (detail : String)
  deriving DecidableEq, Repr

/-- The wording of an adapter's error. -/
def AdapterError.message : AdapterError → String
  | invalidConfig d => s!"invalid adapter config: {d}"
  | build d => s!"adapter build failed: {d}"
  | check d => d

/-- What a checker says: nothing to allow a call, or a denial, or that it cannot tell. -/
abbrev Verdict := Except AdapterError (Option CheckError)

/-- Decides about calls. -/
structure Checker where
  name : String
  check : CheckRequest → Verdict

/-- Makes checkers of one kind. A build may depend on how many builds were attempted before it. -/
structure CheckerBuilder where
  token : Nat
  schema : Schema
  validate : Params → Except AdapterError Unit := fun _ => .ok ()
  build : Nat → Params → Except AdapterError Checker

/-- What comes of handing reports to a consumer. -/
inductive Delivery where
  | taken
  | refused (detail : String)
  /-- The consumer broke off the task that called it. -/
  | crashed
  deriving DecidableEq, Repr

/-- Takes reports. What it does with a call may depend on all calls before it. -/
structure Consumer where
  name : String
  /-- The path under which the consumer shows what it has taken. -/
  endpoint : Option String := none
  /-- What comes of a call, by the earlier calls and the reports of this one. -/
  deliver : List (List ReportRequest) → List ReportRequest → Delivery := fun _ _ => .taken
  /-- What the endpoint shows, by the reports before each time that it was shown,
  this one included. -/
  page : List (List ReportRequest) → Page := fun _ => .text ""

/-- Makes consumers of one kind from the settings; entries of services documents are only
decoded by its schema. -/
structure ConsumerBuilder where
  token : Nat
  schema : Schema := []
  build : Settings → Except String Consumer := fun _ => .error "nothing to build"

/-- Types whose values are told apart by a token. -/
class Identified (β : Type) where
  token : β → Nat

instance : Identified CheckerBuilder := ⟨CheckerBuilder.token⟩
instance : Identified ConsumerBuilder := ⟨ConsumerBuilder.token⟩

/-- A builder from one of the two registries. -/
inductive Builder where
  | checker (b : CheckerBuilder)
  | consumer (b : ConsumerBuilder)

namespace Builder

/-- The schema of a builder's params. -/
def schema : Builder → Schema
  | checker b => b.schema
  | consumer b => b.schema

/-- The builder as one of checkers. -/
def checker? : Builder → Option CheckerBuilder
  | checker b => some b
  | consumer _ => none

/-- Params are vetted by builders of checkers only. -/
def validate (p : Params) : Builder → Except AdapterError Unit
  | checker b => b.validate p
  | consumer _ => .ok ()

/-- Whether two builders are the same one. -/
def same : Builder → Builder → Bool
  | checker a, checker b => a.token == b.token
  | consumer a, consumer b => a.token == b.token
  | _, _ => false

end Builder

end ServiceControl
