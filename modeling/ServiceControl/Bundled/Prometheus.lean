import ServiceControl.Adapter.Page
import ServiceControl.Call.Names
import ServiceControl.Call.Samples
import ServiceControl.Collection.Table
import ServiceControl.Json.Record
import ServiceControl.Number.Shortest
import ServiceControl.Text.Cut

/-!
# The prometheus consumer

Turns reports into series that can be scraped. Request counts become counters, distributions of
latencies and sizes become histograms over the well-known layouts, and three fields of structured
log entries become summaries. Counters and histograms carry the labels of the monitored resource;
labels that are absent are unknown. Samples are kept in blocks until the next page is shown.
-/

namespace ServiceControl.Prometheus

/-- The kind of the consumer. -/
def kind : String := "prometheus"

/-- Where the series are served. -/
def endpoint : String := "/metrics"

/-- The value of an absent label. -/
def unknown : String := "unknown"

/-- A name without slashes and points: those at the front are dropped if they are slashes, the
others become underscores. -/
def safeName (name : String) : String :=
  String.ofList ((name.toList.dropWhile (· == '/')).map fun c =>
    if c == '/' || c == '.' then '_' else c)

/-- A series: a name and labels in the order in which they are shown. -/
structure Series where
  name : String
  labels : List (String × String)
  deriving DecidableEq, Repr

/-- Counted and summed up samples by bound. -/
structure Histogram where
  bounds : List Binary64
  /-- For each bound, how many samples are at most it. -/
  atMost : List Nat
  count : Nat := 0
  sum : Binary64 := .zero
  deriving DecidableEq, Repr

/-- A histogram without samples. -/
def Histogram.over (l : ExponentialBuckets Binary64) : Histogram :=
  { bounds := l.bounds, atMost := l.bounds.map fun _ => 0 }

/-- Takes in a block of samples, whose sum is added as a whole. -/
def Histogram.observe (h : Histogram) (block : List Binary64) : Histogram :=
  { h with
    atMost := List.zipWith (fun b n => n + block.countP fun x => x.atMost b) h.bounds h.atMost
    count := h.count + block.length
    sum := h.sum + block.foldl (· + ·) .zero }

/-- The number and the sum of samples. -/
structure Summary where
  count : Nat := 0
  sum : Binary64 := .zero
  deriving DecidableEq, Repr

/-- Takes in a block of samples one by one. -/
def Summary.observe (s : Summary) (block : List Binary64) : Summary :=
  ⟨s.count + block.length, block.foldl (· + ·) s.sum⟩

/-- What is known of the samples of a series. -/
inductive Tally where
  | histogram (h : Histogram)
  | summary (s : Summary)
  deriving DecidableEq, Repr

/-- The tally of no samples: a histogram over a layout, if there is one. -/
def Tally.empty : Option (ExponentialBuckets Binary64) → Tally
  | some l => .histogram (.over l)
  | none => .summary {}

/-- Takes in a block of samples. -/
def Tally.observe (block : List Binary64) : Tally → Tally
  | histogram h => .histogram (h.observe block)
  | summary s => .summary (s.observe block)

/-- The most samples of a block. -/
def blockSize : Nat := 64

/-- Samples that no page has shown yet. -/
structure Pending where
  /-- The layout of the histogram that they go to, if it is one. -/
  layout : Option (ExponentialBuckets Binary64)
  /-- The last block comes first, and in a block the last sample. -/
  blocks : List (List Binary64) := []
  deriving Repr

/-- Keeps a sample: in the last block, or in a new one when that is full. -/
def Pending.push (p : Pending) (x : Binary64) : Pending :=
  { p with blocks := match p.blocks with
      | b :: r => if b.length < blockSize then (x :: b) :: r else [x] :: b :: r
      | [] => [[x]] }

/-- Moves the samples to a tally, which takes the last block first. -/
def Pending.pour (p : Pending) (t : Option Tally) : Tally :=
  p.blocks.foldl (fun t b => t.observe b.reverse) (t.getD (.empty p.layout))

/-- What one value of a report adds. -/
inductive Recording where
  /-- An increment of a counter. -/
  | count (s : Series) (n : UInt64)
  /-- Samples of a histogram, or without a layout of a summary. -/
  | observe (s : Series) (l : Option (ExponentialBuckets Binary64)) (samples : List Binary64)

/-- A series as it is shown. Series that look the same are one. -/
structure ShownSeries where
  name : String
  /-- The texts of the labels. -/
  labels : List String
  deriving DecidableEq, Repr

/-- Everything recorded so far. -/
structure State where
  counters : Table Series UInt64 := []
  pending : Table Series Pending := []
  tallies : Table ShownSeries Tally := []
  deriving Repr

/-- Takes in a recording. -/
def State.record (s : State) : Recording → State
  | .count key n =>
    { s with counters := Table.alter key (fun c => c.getD 0 + n) s.counters }
  | .observe key l samples =>
    { s with pending :=
      Table.alter key (fun p => samples.foldl Pending.push (p.getD { layout := l })) s.pending }

/-- The labels that a value is recorded with: unknown ones of the resource, those of the operation
over them, those of the value over these; keys are made safe. -/
def mergedLabels (operation value : Labels) : Labels :=
  let unknowns : Labels := .ofList (LabelKey.ofResource.map fun k => (safeName k, unknown))
  unknowns.insertAll ((operation.entries ++ value.entries).map fun e => (safeName e.1, e.2))

/-- The labels under some keys; keys are made safe, absent labels are unknown. -/
def shownLabels (keys : List String) (l : Labels) : List (String × String) :=
  keys.map fun k => (safeName k, (l.find? (safeName k)).getD unknown)

/-- The increment of a counter: negative counts add nothing. -/
def increment (count : Option Int64) : UInt64 :=
  UInt64.ofNat (count.getD 0).toNatClampNeg

/-- What a value of a known metric adds. A distribution of another layout adds nothing. -/
def valueRecording (operation : Labels) (m : KnownMetric) (v : MetricValue) : Option Recording :=
  let labels := mergedLabels operation v.labels
  let series (more : List String) : Series :=
    ⟨safeName m.name, shownLabels (LabelKey.ofResource ++ more) labels⟩
  match m.layout? with
  | none => some (.count (series m.labelKeys) (increment v.int64))
  | some l =>
    match v.distribution.map l.samples with
    | some (.ok samples) => some (.observe (series []) (some l) samples)
    | _ => none

/-- What the values of a metric add; metrics that are not known add nothing. -/
def metricRecordings (operation : Labels) (s : MetricValueSet) : List Recording :=
  match KnownMetric.ofName? s.name with
  | some m => s.values.filterMap (valueRecording operation m)
  | none => []

/-- The fields of structured log entries that are summed up, and the names of their series. -/
def summaryFields : List (String × String) :=
  [("request_latency_in_ms", "http_request_duration_microseconds"),
    ("request_size", "http_request_size_bytes"), ("response_size", "http_response_size_bytes")]

/-- The text of a field, empty if it holds none. -/
def fieldText (fields : List (String × Json)) (name : String) : String :=
  ((SortedMap.lookUp? name fields).bind Json.text?).getD ""

/-- What a log entry adds. -/
def logRecordings (e : LogEntry) : List Recording :=
  match e.payload with
  | none => []
  | some p =>
    let labels := [("api_method", fieldText p.fields "api_method"),
      ("service", fieldText p.fields "api_name")]
    summaryFields.filterMap fun (field, name) =>
      ((SortedMap.lookUp? field p.fields).bind Json.double?).map
        fun x => .observe ⟨name, labels⟩ none [x]

/-- What an operation adds: its metrics, then its log entries. -/
def operationRecordings (service : String) (o : Operation) : List Recording :=
  o.metrics.flatMap (metricRecordings (o.resourceLabels service)) ++ o.logs.flatMap logRecordings

/-- What a report adds. -/
def recordings (r : ReportRequest) : List Recording :=
  r.operations.flatMap (operationRecordings r.service)

/-- Takes in reports. -/
def State.consume (s : State) (reports : List ReportRequest) : State :=
  (reports.flatMap recordings).foldl State.record s

/-- Escapes a label's value. A pair of backslashes counts as one that is escaped already, and
so does a backslash in front of a quote; one that stands alone waits for the character behind
it, over line ends. -/
def escapeValue (waiting : Bool) : List Char → List Char
  | [] => if waiting then ['\\', '\\'] else []
  | c :: r =>
    if c = '\n' then '\\' :: 'n' :: escapeValue waiting r
    else if c = '"' then '\\' :: '"' :: escapeValue false r
    else if c = '\\' then
      if waiting then '\\' :: '\\' :: escapeValue false r else escapeValue true r
    else if waiting then '\\' :: '\\' :: c :: escapeValue false r
    else c :: escapeValue false r

/-- A label as it is shown. -/
def labelText (l : String × String) : String :=
  l.1 ++ "=\"" ++ String.ofList (escapeValue false l.2.toList) ++ "\""

/-- The name of a line and its labels in braces. -/
def lineKey (name : String) (labels : List String) : String :=
  if labels.isEmpty then name else name ++ "\x7b" ++ ",".intercalate labels ++ "\x7d"

/-- The description of a metric, by the name of its series. -/
def description? (name : String) : Option String :=
  let described := [(KnownMetric.requestCount, "Request Count"),
    (.requestCountByConsumer, "Request Count By Consumer"), (.totalLatencies, "Total Latency"),
    (.backendLatencies, "Backend Latency"), (.requestSizes, "Request Size")]
  (described.find? fun d => safeName d.1.name == name).map Prod.snd

/-- A series as it is shown. -/
def Series.shown (s : Series) : ShownSeries := ⟨s.name, s.labels.map labelText⟩

/-- Adds the lines of a series. -/
def withSeries (e : Exposition) (s : ShownSeries) (sort : String)
    (values : List (String × LineValue)) : Exposition where
  help := match description? s.name with
    | some text => e.help.insert s.name text
    | none => e.help
  sorts := e.sorts.insert s.name sort
  values := e.values.insertAll values

/-- Adds the line of a counter. -/
def withCounter (e : Exposition) (s : ShownSeries) (n : UInt64) : Exposition :=
  withSeries e s "counter" [(lineKey s.name s.labels, .count n.toNat)]

/-- The lines of a sum and a number of samples. -/
def totalLines (s : ShownSeries) (sum : Binary64) (count : Nat) : List (String × LineValue) :=
  [(lineKey (s.name ++ "_sum") s.labels, .sum sum),
    (lineKey (s.name ++ "_count") s.labels, .count count)]

/-- The lines of a histogram: one for each bound, one for all samples, the sum and the number. -/
def histogramLines (s : ShownSeries) (h : Histogram) : List (String × LineValue) :=
  let bucket (bound : String) (n : Nat) : String × LineValue :=
    (lineKey (s.name ++ "_bucket") (s.labels ++ [labelText ("le", bound)]), .count n)
  List.zipWith (fun b n => bucket (Shortest.positional b) n) h.bounds h.atMost ++
    bucket "+Inf" h.count :: totalLines s h.sum h.count

/-- Adds the lines of a tally. -/
def withTally (e : Exposition) (s : ShownSeries) : Tally → Exposition
  | .histogram h => withSeries e s "histogram" (histogramLines s h)
  | .summary m => withSeries e s "summary" (totalLines s m.sum m.count)

/-- Moves all samples to the tallies. -/
def State.settle (s : State) : State :=
  { s with
    pending := []
    tallies := s.pending.foldl (fun t e => Table.alter e.1.shown e.2.pour t) s.tallies }

/-- Shows everything recorded so far. -/
def State.render (s : State) : Exposition × State :=
  let s := s.settle
  let e := s.counters.foldl (fun e (k, n) => withCounter e k.shown n) {}
  (s.tallies.foldl (fun e (k, t) => withTally e k t) e, s)

/-- Takes in reports and shows everything, once for each group of reports; the last page counts. -/
def pageAfter (s : State) (shown : Exposition) : List (List ReportRequest) → Exposition
  | [] => shown
  | reports :: rest =>
    let (e, s) := (s.consume reports).render
    pageAfter s e rest

end ServiceControl.Prometheus
