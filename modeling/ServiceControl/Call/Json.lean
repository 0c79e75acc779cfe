import ServiceControl.Call.Basic
import ServiceControl.Json.Record

/-!
# Calls in JSON

Each part of a call is a record. Fields that are absent have their default, fields that are not
known are not looked at. Optional fields of an operation and of a log entry are written as null,
those of a metric value are left out.
-/

namespace ServiceControl

/-- A text or null. -/
def Json.ofOptionalText (s : Option String) : Json := (s.map Json.str).getD .null

/-- A double, or null if it is not finite. -/
def Json.ofDouble (x : Binary64) : Json := if x.isFinite then .float x else .null

/-- A map with each value written. -/
def Json.ofMap (write : α → Json) (m : SortedMap α) : Json := .obj (m.map write).entries

/-- Reads a signed 64-bit integer as a word. -/
def Json.toInt64? (j : Json) : Option Int64 := j.int64?.map Int64.ofInt

/-- Reads a signed 32-bit integer as a word. -/
def Json.toInt32? (j : Json) : Option Int32 := j.int32?.map Int32.ofInt

/-- Reads labels. -/
def Json.labels? (j : Json) : Option Labels := j.map? Json.text?

namespace ExponentialBuckets

/-- Writes the buckets. -/
def toJson (b : ExponentialBuckets Binary64) : Json :=
  .obj [("numFiniteBuckets", .int b.count.toInt), ("growthFactor", .ofDouble b.growth),
    ("scale", .ofDouble b.scale)]

/-- Reads buckets. -/
def ofJson? (j : Json) : Option (ExponentialBuckets Binary64) := do
  let r ← j.record? ["numFiniteBuckets", "growthFactor", "scale"]
  return {
    count := ← r.withDefault "numFiniteBuckets" 0 Json.toInt32?
    growth := ← r.withDefault "growthFactor" Binary64.zero Json.double?
    scale := ← r.withDefault "scale" Binary64.zero Json.double? }

end ExponentialBuckets

namespace Distribution

/-- Writes a distribution. -/
def toJson (d : Distribution Binary64) : Json :=
  .obj [("count", .int d.count.toInt), ("mean", .ofDouble d.mean), ("minimum", .ofDouble d.minimum),
    ("maximum", .ofDouble d.maximum),
    ("bucketCounts", .arr (d.bucketCounts.map fun c => .int c.toInt)),
    ("exponentialBuckets", (d.buckets.map (·.toJson)).getD .null)]

/-- Reads a distribution. -/
def ofJson? (j : Json) : Option (Distribution Binary64) := do
  let r ← j.record?
    ["count", "mean", "minimum", "maximum", "bucketCounts", "exponentialBuckets"]
  return {
    count := ← r.withDefault "count" 0 Json.toInt64?
    mean := ← r.withDefault "mean" Binary64.zero Json.double?
    minimum := ← r.withDefault "minimum" Binary64.zero Json.double?
    maximum := ← r.withDefault "maximum" Binary64.zero Json.double?
    bucketCounts := ← r.withDefault "bucketCounts" [] (Json.list? Json.toInt64?)
    buckets := ← r.optional "exponentialBuckets" ExponentialBuckets.ofJson? }

end Distribution

namespace MetricValue

/-- A field that is left out if it is not set. -/
def setField (name : String) (v : Option α) (write : α → Json) : List (String × Json) :=
  match v with
  | some v => [(name, write v)]
  | none => []

/-- Writes a metric value. -/
def toJson (v : MetricValue) : Json :=
  .obj (("labels", .ofMap .str v.labels) :: (
    setField "int64Value" v.int64 (fun i => .int i.toInt) ++
    setField "doubleValue" v.double .ofDouble ++ setField "boolValue" v.bool .bool ++
    setField "stringValue" v.text .str ++
    setField "distributionValue" v.distribution Distribution.toJson))

/-- Reads a metric value. -/
def ofJson? (j : Json) : Option MetricValue := do
  let r ← j.record?
    ["labels", "int64Value", "doubleValue", "boolValue", "stringValue", "distributionValue"]
  return {
    labels := ← r.withDefault "labels" .empty Json.labels?
    int64 := ← r.optional "int64Value" Json.toInt64?
    double := ← r.optional "doubleValue" Json.double?
    bool := ← r.optional "boolValue" Json.bool?
    text := ← r.optional "stringValue" Json.text?
    distribution := ← r.optional "distributionValue" Distribution.ofJson? }

end MetricValue

namespace MetricValueSet

/-- Writes the values of a metric. -/
def toJson (s : MetricValueSet) : Json :=
  .obj [("metricName", .str s.name), ("metricValues", .arr (s.values.map (·.toJson)))]

/-- Reads the values of a metric. -/
def ofJson? (j : Json) : Option MetricValueSet := do
  let r ← j.record? ["metricName", "metricValues"]
  return {
    name := ← r.withDefault "metricName" "" Json.text?
    values := ← r.withDefault "metricValues" [] (Json.list? MetricValue.ofJson?) }

end MetricValueSet

namespace LogEntry

/-- Writes a log entry. -/
def toJson (e : LogEntry) : Json :=
  .obj [("name", .str e.name), ("severity", .str e.severity),
    ("textPayload", .ofOptionalText e.text),
    ("structPayload", (e.payload.map fun p => .obj p.fields).getD .null)]

/-- Reads a log entry. -/
def ofJson? (j : Json) : Option LogEntry := do
  let r ← j.record? ["name", "severity", "textPayload", "structPayload"]
  return {
    name := ← r.withDefault "name" "" Json.text?
    severity := ← r.withDefault "severity" "" Json.text?
    text := ← r.optional "textPayload" Json.text?
    payload := ← r.optional "structPayload" Json.payload? }

end LogEntry

namespace Operation

/-- Writes an operation. -/
def toJson (o : Operation) : Json :=
  .obj [("operationId", .str o.id), ("operationName", .str o.name), ("consumerId", .str o.consumer),
    ("startTime", .ofOptionalText o.startTime), ("endTime", .ofOptionalText o.endTime),
    ("labels", .ofMap .str o.labels), ("metricValueSets", .arr (o.metrics.map (·.toJson))),
    ("logEntries", .arr (o.logs.map (·.toJson)))]

/-- Reads an operation. -/
def ofJson? (j : Json) : Option Operation := do
  let r ← j.record?
    ["operationId", "operationName", "consumerId", "startTime", "endTime", "labels",
      "metricValueSets", "logEntries"]
  return {
    id := ← r.withDefault "operationId" "" Json.text?
    name := ← r.withDefault "operationName" "" Json.text?
    consumer := ← r.withDefault "consumerId" "" Json.text?
    startTime := ← r.optional "startTime" Json.text?
    endTime := ← r.optional "endTime" Json.text?
    labels := ← r.withDefault "labels" .empty Json.labels?
    metrics := ← r.withDefault "metricValueSets" [] (Json.list? MetricValueSet.ofJson?)
    logs := ← r.withDefault "logEntries" [] (Json.list? LogEntry.ofJson?) }

end Operation

namespace CheckRequest

/-- Writes a check. -/
def toJson (c : CheckRequest) : Json :=
  .obj [("serviceName", .str c.service), ("operation", c.operation.toJson)]

/-- Reads a check. -/
def ofJson? (j : Json) : Option CheckRequest := do
  let r ← j.record? ["serviceName", "operation"]
  return {
    service := ← r.withDefault "serviceName" "" Json.text?
    operation := ← r.withDefault "operation" {} Operation.ofJson? }

end CheckRequest

namespace ReportRequest

/-- Writes a report. -/
def toJson (r : ReportRequest) : Json :=
  .obj [("serviceName", .str r.service), ("operations", .arr (r.operations.map (·.toJson)))]

/-- Reads a report. -/
def ofJson? (j : Json) : Option ReportRequest := do
  let r ← j.record? ["serviceName", "operations"]
  return {
    service := ← r.withDefault "serviceName" "" Json.text?
    operations := ← r.withDefault "operations" [] (Json.list? Operation.ofJson?) }

/-- The answer to a report says nothing, whatever fields it has. -/
def responseOfJson? (j : Json) : Option Unit := (j.record? []).map fun _ => ()

end ReportRequest

/-- Reads a code: its name, or an object whose only key is the name with a null under it. -/
def CheckCode.ofJson? : Json → Option CheckCode
  | .str s => CheckCode.ofName? s
  | .obj [(s, .null)] => CheckCode.ofName? s
  | _ => none

namespace CheckError

/-- Writes a denial. -/
def toJson (e : CheckError) : Json := .obj [("code", .str e.code.name), ("detail", .str e.detail)]

/-- Reads a denial; the code must be there. -/
def ofJson? (j : Json) : Option CheckError := do
  let r ← j.record? ["code", "detail"]
  return {
    code := ← r.required "code" CheckCode.ofJson?
    detail := ← r.withDefault "detail" "" Json.text? }

end CheckError

namespace CheckResponse

/-- Writes the answer to a check. -/
def toJson (r : CheckResponse) : Json :=
  .obj [("operationId", .str r.operation), ("checkErrors", .arr (r.errors.map (·.toJson)))]

/-- Reads the answer to a check. -/
def ofJson? (j : Json) : Option CheckResponse := do
  let r ← j.record? ["operationId", "checkErrors"]
  return {
    operation := ← r.withDefault "operationId" "" Json.text?
    errors := ← r.withDefault "checkErrors" [] (Json.list? CheckError.ofJson?) }

end CheckResponse

end ServiceControl
