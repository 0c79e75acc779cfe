import ServiceControl.Call.Basic
import ServiceControl.Json.Writer
import ServiceControl.Text.Ascii
import ServiceControl.Text.Shown

/-!
# The log consumer

Writes one event for each operation of a report, and one for each of the operation's log entries.
-/

namespace ServiceControl.Log

/-- The kind of the consumer. -/
def kind : String := "log"

/-- The weight of an event. -/
inductive Level where
  | info
  | warn
  | error
  deriving DecidableEq, Repr

/-- The name of a level. -/
def Level.name : Level → String
  | info => "INFO"
  | warn => "WARN"
  | error => "ERROR"

/-- One line of the log. -/
structure Event where
  level : Level
  message : String
  fields : List (String × String)
  deriving DecidableEq, Repr

/-- The level of a severity; its letters may have either case. -/
def levelOf (severity : String) : Level :=
  let s := Text.upper severity
  if s ∈ ["ERROR", "CRITICAL", "ALERT", "EMERGENCY"] then .error
  else if s = "WARNING" then .warn
  else .info

/-- What a log entry carries, as text; structured data goes before text. -/
def payloadText (e : LogEntry) : String :=
  match e.payload with
  | some p => (Json.obj p.fields).compact
  | none => e.text.getD ""

/-- The event of a log entry. -/
def entryEvent (service operation : String) (e : LogEntry) : Event where
  level := levelOf e.severity
  message := "Log entry"
  fields := [("service", service), ("operation_id", operation), ("log", e.name),
    ("payload", payloadText e)]

/-- The event of an operation. -/
def operationEvent (service : String) (o : Operation) : Event where
  level := .info
  message := "Operation reported"
  fields := [("service", service), ("operation_id", o.id), ("operation_name", o.name),
    ("consumer_id", o.consumer), ("start_time", o.startTime.getD ""),
    ("end_time", o.endTime.getD ""), ("metrics", Text.shownList (o.metrics.map (·.name)))]

/-- The events of a report. -/
def events (r : ReportRequest) : List Event :=
  r.operations.flatMap fun o =>
    operationEvent r.service o :: o.logs.map (entryEvent r.service o.id)

end ServiceControl.Log
