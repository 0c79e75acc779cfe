import ServiceControl.Json.Value

/-!
# Checks and reports

A check asks whether one operation may proceed. A report carries the telemetry of operations
that are complete. Both describe an operation by its caller, its labels, its metric values
and its log entries.
-/

namespace ServiceControl

/-- Text labels in the order of their keys. -/
abbrev Labels := SortedMap String

/-- The buckets of a distribution: each bound is the one before it times the growth factor. -/
structure ExponentialBuckets (α : Type) where
  /-- The number of bounds. -/
  count : Int32
  /-- The ratio of neighbouring bounds. -/
  growth : α
  /-- The first bound. -/
  scale : α
  deriving Repr, DecidableEq

/-- Observed values summed up in buckets. -/
structure Distribution (α : Type) where
  count : Int64
  mean : α
  minimum : α
  maximum : α
  bucketCounts : List Int64
  buckets : Option (ExponentialBuckets α)
  deriving Repr, DecidableEq

/-- One value of a metric. One of the value fields is expected to be set, any number may be. -/
structure MetricValue where
  labels : Labels := .empty
  int64 : Option Int64 := none
  double : Option Binary64 := none
  bool : Option Bool := none
  text : Option String := none
  distribution : Option (Distribution Binary64) := none
  deriving Repr, DecidableEq, Inhabited

/-- The values of one metric. -/
structure MetricValueSet where
  name : String := ""
  values : List MetricValue := []
  deriving Repr, DecidableEq, Inhabited

/-- One line of an operation's log. -/
structure LogEntry where
  name : String := ""
  severity : String := ""
  text : Option String := none
  payload : Option Payload := none
  deriving Repr, Inhabited

/-- An operation of an API as its frontend saw it. -/
structure Operation where
  id : String := ""
  name : String := ""
  /-- The calling service. -/
  consumer : String := ""
  startTime : Option String := none
  endTime : Option String := none
  labels : Labels := .empty
  metrics : List MetricValueSet := []
  logs : List LogEntry := []
  deriving Repr, Inhabited

/-- Asks whether an operation may proceed. -/
structure CheckRequest where
  /-- The service that is called. -/
  service : String := ""
  operation : Operation := {}
  deriving Repr, Inhabited

/-- Telemetry of complete operations. -/
structure ReportRequest where
  service : String := ""
  operations : List Operation := []
  deriving Repr, Inhabited

/-- Reasons to deny an operation. -/
inductive CheckCode where
  | notFound
  | permissionDenied
  | resourceExhausted
  | budgetExceeded
  | serviceNotActivated
  | clientAppBlocked
  | ipAddressBlocked
  | refererBlocked
  | apiKeyInvalid
  deriving Repr, DecidableEq, Inhabited

namespace CheckCode

/-- Every code. -/
def all : List CheckCode :=
  [.notFound, .permissionDenied, .resourceExhausted, .budgetExceeded, .serviceNotActivated,
    .clientAppBlocked, .ipAddressBlocked, .refererBlocked, .apiKeyInvalid]

/-- The name of a code, as it is written. -/
def name : CheckCode → String
  | .notFound => "NOT_FOUND"
  | .permissionDenied => "PERMISSION_DENIED"
  | .resourceExhausted => "RESOURCE_EXHAUSTED"
  | .budgetExceeded => "BUDGET_EXCEEDED"
  | .serviceNotActivated => "SERVICE_NOT_ACTIVATED"
  | .clientAppBlocked => "CLIENT_APP_BLOCKED"
  | .ipAddressBlocked => "IP_ADDRESS_BLOCKED"
  | .refererBlocked => "REFERER_BLOCKED"
  | .apiKeyInvalid => "API_KEY_INVALID"

/-- The code of a name. -/
def ofName? (s : String) : Option CheckCode := all.find? fun c => c.name == s

/-- Names read back. -/
@[simp] theorem ofName?_name (c : CheckCode) : ofName? c.name = some c := by
  cases c <;> decide

end CheckCode

/-- One denial. -/
structure CheckError where
  code : CheckCode
  detail : String := ""
  deriving Repr, DecidableEq, Inhabited

/-- The denials of a check; the operation may proceed if there are none. -/
structure CheckResponse where
  operation : String := ""
  errors : List CheckError := []
  deriving Repr, DecidableEq, Inhabited

/-- The key of the label that holds the caller's address. -/
def callerIpKey : String := "servicecontrol.googleapis.com/caller_ip"

/-- The caller's address as text, if the frontend gave one. -/
def CheckRequest.callerIp (r : CheckRequest) : Option String :=
  r.operation.labels.find? callerIpKey

end ServiceControl
