import ServiceControl.Net.Endpoint
import ServiceControl.Settings.Basic
import ServiceControl.Text.Blank

/-!
# Validation of settings

Every rule is tested by itself, and all violations are told in a fixed order; those of batches come
in the order of the consumers' names.
-/

namespace ServiceControl

/-- A violated rule. -/
structure Violation where
  /-- The setting, by its dotted place. -/
  field : String
  message : String
  deriving DecidableEq, Repr

/-- The wording of a violation. -/
def Violation.text (v : Violation) : String := s!"{v.field}: {v.message}"

namespace Settings

/-- A violation of a rule that does not hold. -/
def require (holds : Bool) (field message : String) : List Violation :=
  if holds then [] else [⟨field, message⟩]

/-- An address has to be one that can be listened at. -/
def requireEndpoint (field address : String) : List Violation :=
  require (Net.Endpoint.parse? address).isSome field s!"'{address}' is not a socket address"

/-- A number has to be positive. -/
def requirePositive (field : String) (n : Nat) : List Violation :=
  require (0 < n) field "must be at least 1"

/-- The rules of a batch. -/
def batchViolations (consumers : List String) (name : String) (b : BatchSettings) :
    List Violation :=
  let field := s!"reports.batching.{name}"
  require (consumers.contains name) field "names a consumer that is not enabled" ++
    requirePositive s!"{field}.max_batch_count" b.maxCount ++
    requirePositive s!"{field}.batch_timeout_ms" b.timeout

/-- All violated rules, in order. -/
def violations (s : Settings) : List Violation :=
  requireEndpoint "listener.bind_address" s.listener.bindAddress ++
  requirePositive "listener.request_timeout_secs" s.listener.requestTimeout ++
  requirePositive "reports.workers" s.reports.workers ++
  requirePositive "reports.queue_capacity" s.reports.queueCapacity ++
  s.reports.batching.entries.flatMap (fun e => batchViolations s.reports.consumers e.1 e.2) ++
  require (!decide (Text.Blank s.services.source)) "services.source" "must not be empty" ++
  requirePositive "services.poll_interval_secs" s.services.pollInterval ++
  requirePositive "services.fetch_timeout_secs" s.services.fetchTimeout ++
  (if s.observability.metricsEnabled then
    requireEndpoint "observability.metrics_address" s.observability.metricsAddress else [])

end Settings

/-- Why there are no settings. -/
inductive SettingsError where
  /-- The file could not be read as text. -/
  | io (detail : String)
  /-- The text is no TOML, or not of settings. -/
  | parse
  /-- Rules are violated. -/
  | invalid (violations : List Violation)
  deriving DecidableEq, Repr

/-- The wording of a settings error; that of a text that does not parse is not fixed further. -/
def SettingsError.message : SettingsError → String
  | io detail => s!"IO error: {detail}"
  | parse => "Parse error"
  | invalid vs => "Validation failed: " ++ ", ".intercalate (vs.map Violation.text)

namespace Settings

/-- Accepts settings that violate no rule. -/
def validate (s : Settings) : Except SettingsError Settings :=
  match s.violations with
  | [] => .ok s
  | vs => .error (.invalid vs)

end Settings

end ServiceControl
