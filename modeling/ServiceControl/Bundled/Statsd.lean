import ServiceControl.Call.Names
import ServiceControl.Call.Samples
import ServiceControl.Net.Lookup
import ServiceControl.Net.Network
import ServiceControl.Net.Reach
import ServiceControl.Text.Blank
import ServiceControl.Text.Cut

/-!
# The statsd consumer

Writes counters and timings as lines `name:value|type` and sends them one by one. A name is made of
the version, the location and the method of the operation, the shortened name of the metric, and the
labels that belong to the metric, joined by points.
-/

namespace ServiceControl.Statsd

/-- The kind of the consumer. -/
def kind : String := "statsd"

/-- The text without the points at its ends. -/
def trimPoints (s : String) : String := Text.trimBy (· == '.') s

/-- Pieces joined by points, without points at the ends. -/
def joinPieces (pieces : List String) : String := trimPoints (".".intercalate pieces)

/-- The labels under some keys, as far as they are present. -/
def labelsUnder (keys : List String) (l : Labels) : List String := keys.filterMap l.find?

/-- The beginning of the names of an operation's metrics. -/
def resourcePart (l : Labels) : String :=
  joinPieces (labelsUnder [LabelKey.apiVersion, LabelKey.location, LabelKey.apiMethod] l)

/-- The end of the name of a counter. -/
def labelPart (metric : String) (l : Labels) : String :=
  joinPieces (labelsUnder (labelKeysOf metric) l)

/-- A metric's name with well-known domains shortened and points for slashes. -/
def shortName (metric : String) : String :=
  Text.replaceChar '/' '.'
    (Text.replace "cloud.googleapis.com" "cloud"
      (Text.replace "serviceruntime.googleapis.com" "service" metric))

/-- The name in a line. -/
def lineName (resource metric labels : String) : String :=
  joinPieces [resource, shortName metric, labels]

/-- The line of a counter. -/
def counterLine (name : String) (count : Int) : String := s!"{name}:{count}|c"

/-- The line of a timing, in whole milliseconds. -/
def timingLine (name : String) (seconds : Binary64) : String :=
  s!"{name}:{(seconds * Binary64.ofInt 1000).toInt64}|ms"

/-- The samples of a distribution of a metric; none unless its layout is the metric's. -/
def samplesOf (metric : String) (d : Distribution Binary64) : List Binary64 :=
  match layoutOf? metric with
  | some l => ((l.samples d).toOption).getD []
  | none => []

/-- The lines of one value: a count goes before a distribution. -/
def valueLines (resource metric : String) (v : MetricValue) : List String :=
  match v.int64, v.distribution with
  | some count, _ =>
    [counterLine (lineName resource metric (labelPart metric v.labels)) count.toInt]
  | none, some d => (samplesOf metric d).map (timingLine (lineName resource metric ""))
  | none, none => []

/-- The lines of an operation. -/
def operationLines (service : String) (o : Operation) : List String :=
  let resource := resourcePart (o.resourceLabels service)
  o.metrics.flatMap fun m => m.values.flatMap (valueLines resource m.name)

/-- The lines of a report. -/
def lines (r : ReportRequest) : List String := r.operations.flatMap (operationLines r.service)

/-- A line behind the configured beginning of all names, if there is one. -/
def withBeginning (beginning line : String) : String :=
  let b := trimPoints beginning
  if b.isEmpty then line else s!"{b}.{line}"

/-- The number of lines that may wait to be sent. -/
def queueCapacity : Nat := 4096

/-- The lines that wait to be sent. -/
structure Outbox where
  beginning : String := ""
  waiting : List String := []
  deriving Repr

/-- What a refused line leads to. -/
def fullMessage : String := "statsd queue: no available capacity"

/-- Takes in lines as far as there is room; the rest is dropped, and tells so. -/
def Outbox.put (o : Outbox) (lines : List String) : Except String Unit × Outbox :=
  let room := queueCapacity - o.waiting.length
  let taken := (lines.take room).map (withBeginning o.beginning)
  (if room < lines.length then .error fullMessage else .ok (),
    { o with waiting := o.waiting ++ taken })

/-- Takes in reports. -/
def Outbox.consume (o : Outbox) (reports : List ReportRequest) : Except String Unit × Outbox :=
  o.put (reports.flatMap lines)

/-- Why nothing can be sent to a configured address. -/
inductive AddressError where
  | noPort
  | badPort
  | host (e : Net.LookupError)
  | send (e : Net.SendError)
  deriving DecidableEq, Repr

/-- The wording of an address error. -/
def AddressError.message : AddressError → String
  | noPort => "invalid socket address"
  | badPort => "invalid port value"
  | host e => e.message
  | send e => e.message

/-- The address that a configured text leads to: an endpoint, or a host to look up with a port
behind the last colon. -/
def hostAddress (text : String) : Except AddressError Net.Address :=
  match Net.Endpoint.parse? text with
  | some e => .ok e.address
  | none =>
    match Text.cutLast? ':' text with
    | none => .error .noPort
    | some (host, port) =>
      match Net.numberUpTo 65535 port with
      | .error _ => .error .badPort
      | .ok _ => (Net.lookup host).mapError .host

/-- Checks that a configured address can be sent to. -/
def checkAddress (text : String) : Except AddressError Unit := do
  (← hostAddress text).checkSend.mapError .send

end ServiceControl.Statsd
