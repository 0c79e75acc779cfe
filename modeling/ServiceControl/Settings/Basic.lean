import ServiceControl.Json.Record

/-!
# Settings

What the gateway process is started with. Every setting has a default, so any part of a settings
record may be left out; parts that are not known are not looked at.
-/

namespace ServiceControl

/-- Where calls are taken. -/
structure ListenerSettings where
  bindAddress : String := "0.0.0.0:9092"
  /-- How long a call may take, in seconds. -/
  requestTimeout : Nat := 30
  deriving DecidableEq, Repr, Inhabited

/-- How reports are gathered for one consumer. -/
structure BatchSettings where
  maxCount : Nat := 50
  /-- How long a report may wait, in milliseconds. -/
  timeout : Nat := 60000
  deriving DecidableEq, Repr, Inhabited

/-- The way of reports to the consumers. -/
structure ReportSettings where
  workers : Nat := 2
  queueCapacity : Nat := 1048576
  /-- The kinds of the consumers, in the order of delivery. -/
  consumers : List String := ["prometheus", "statsd", "log"]
  /-- The consumers that take reports in batches. -/
  batching : SortedMap BatchSettings := .empty
  deriving DecidableEq, Repr, Inhabited

/-- The statsd consumer. -/
structure StatsdSettings where
  address : String := "statsd:8125"
  /-- What all names begin with. -/
  beginning : String := ""
  deriving DecidableEq, Repr, Inhabited

/-- Where the services document comes from. -/
structure SourceSettings where
  source : String := "services.yml"
  /-- The time between two reloads, in seconds. -/
  pollInterval : Nat := 5
  /-- How long a fetch may take, in seconds. -/
  fetchTimeout : Nat := 5
  /-- Whether a change of the file leads to a reload at once. -/
  watch : Bool := false
  deriving DecidableEq, Repr, Inhabited

/-- The gateway's own log and metrics. -/
structure ObservabilitySettings where
  logLevel : String := "info"
  jsonLogs : Bool := false
  metricsEnabled : Bool := true
  metricsAddress : String := "0.0.0.0:9090"
  deriving DecidableEq, Repr, Inhabited

/-- All settings. -/
structure Settings where
  listener : ListenerSettings := {}
  reports : ReportSettings := {}
  statsd : StatsdSettings := {}
  services : SourceSettings := {}
  observability : ObservabilitySettings := {}
  deriving DecidableEq, Repr, Inhabited

namespace Settings

/-- Reads the listener. -/
def listener? (more : Bool) (j : Json) : Option ListenerSettings := do
  let r ← j.recordWith? more ["bind_address", "request_timeout_secs"]
  let d : ListenerSettings := {}
  return {
    bindAddress := ← r.withDefault "bind_address" d.bindAddress Json.text?
    requestTimeout := ← r.withDefault "request_timeout_secs" d.requestTimeout Json.word64? }

/-- Reads the settings of a batch. -/
def batch? (more : Bool) (j : Json) : Option BatchSettings := do
  let r ← j.recordWith? more ["max_batch_count", "batch_timeout_ms"]
  let d : BatchSettings := {}
  return {
    maxCount := ← r.withDefault "max_batch_count" d.maxCount Json.word64?
    timeout := ← r.withDefault "batch_timeout_ms" d.timeout Json.word64? }

/-- Reads the way of reports. -/
def reports? (more : Bool) (j : Json) : Option ReportSettings := do
  let r ← j.recordWith? more ["workers", "queue_capacity", "consumers", "batching"]
  let d : ReportSettings := {}
  return {
    workers := ← r.withDefault "workers" d.workers Json.word64?
    queueCapacity := ← r.withDefault "queue_capacity" d.queueCapacity Json.word64?
    consumers := ← r.withDefault "consumers" d.consumers (Json.list? Json.text?)
    batching := ← r.withDefault "batching" d.batching (Json.map? (batch? more)) }

/-- Reads the statsd consumer. -/
def statsd? (more : Bool) (j : Json) : Option StatsdSettings := do
  let r ← j.recordWith? more ["address", "prefix"]
  let d : StatsdSettings := {}
  return {
    address := ← r.withDefault "address" d.address Json.text?
    beginning := ← r.withDefault "prefix" d.beginning Json.text? }

/-- Reads the source of services. -/
def source? (more : Bool) (j : Json) : Option SourceSettings := do
  let r ← j.recordWith? more ["source", "poll_interval_secs", "fetch_timeout_secs", "watch"]
  let d : SourceSettings := {}
  return {
    source := ← r.withDefault "source" d.source Json.text?
    pollInterval := ← r.withDefault "poll_interval_secs" d.pollInterval Json.word64?
    fetchTimeout := ← r.withDefault "fetch_timeout_secs" d.fetchTimeout Json.word64?
    watch := ← r.withDefault "watch" d.watch Json.bool? }

/-- Reads what concerns the gateway's own log and metrics. -/
def observability? (more : Bool) (j : Json) : Option ObservabilitySettings := do
  let r ← j.recordWith? more ["log_level", "json_logs", "metrics_enabled", "metrics_address"]
  let d : ObservabilitySettings := {}
  return {
    logLevel := ← r.withDefault "log_level" d.logLevel Json.text?
    jsonLogs := ← r.withDefault "json_logs" d.jsonLogs Json.bool?
    metricsEnabled := ← r.withDefault "metrics_enabled" d.metricsEnabled Json.bool?
    metricsAddress := ← r.withDefault "metrics_address" d.metricsAddress Json.text? }

/-- Reads settings; lists in the place of records may be longer than the records
if that is allowed. -/
def ofData? (more : Bool) (j : Json) : Option Settings := do
  let r ← j.recordWith? more ["listener", "reports", "statsd", "services", "observability"]
  return {
    listener := ← r.withDefault "listener" {} (listener? more)
    reports := ← r.withDefault "reports" {} (reports? more)
    statsd := ← r.withDefault "statsd" {} (statsd? more)
    services := ← r.withDefault "services" {} (source? more)
    observability := ← r.withDefault "observability" {} (observability? more) }

/-- Reads settings from JSON. -/
def ofJson? (j : Json) : Option Settings := ofData? false j

/-- Writes the settings of a batch. -/
def batchToJson (b : BatchSettings) : Json :=
  .obj [("max_batch_count", .int b.maxCount), ("batch_timeout_ms", .int b.timeout)]

/-- Writes settings. -/
def toJson (s : Settings) : Json :=
  .obj [
    ("listener", .obj [("bind_address", .str s.listener.bindAddress),
      ("request_timeout_secs", .int s.listener.requestTimeout)]),
    ("reports", .obj [("workers", .int s.reports.workers),
      ("queue_capacity", .int s.reports.queueCapacity),
      ("consumers", .arr (s.reports.consumers.map .str)),
      ("batching", .obj (s.reports.batching.map batchToJson).entries)]),
    ("statsd", .obj [("address", .str s.statsd.address), ("prefix", .str s.statsd.beginning)]),
    ("services", .obj [("source", .str s.services.source),
      ("poll_interval_secs", .int s.services.pollInterval),
      ("fetch_timeout_secs", .int s.services.fetchTimeout), ("watch", .bool s.services.watch)]),
    ("observability", .obj [("log_level", .str s.observability.logLevel),
      ("json_logs", .bool s.observability.jsonLogs),
      ("metrics_enabled", .bool s.observability.metricsEnabled),
      ("metrics_address", .str s.observability.metricsAddress)])]

/-- What selects the events that the process log shows: the gateway's own and
those of its server. -/
def logDirectives (level : String) : String := s!"mixgate={level},tower_http={level}"

end Settings

end ServiceControl
