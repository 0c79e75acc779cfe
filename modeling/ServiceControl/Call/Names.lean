import ServiceControl.Call.Basic

/-!
# Well-known names

The keys of labels, the names of metrics and the layouts of distributions that frontends and
consumers of reports agree on.
-/

namespace ServiceControl

namespace LabelKey

/-- The service that is called. -/
def service : String := "cloud.googleapis.com/service"

def location : String := "cloud.googleapis.com/location"

def uid : String := "cloud.googleapis.com/uid"

def project : String := "cloud.googleapis.com/project"

def apiVersion : String := "serviceruntime.googleapis.com/api_version"

def apiMethod : String := "serviceruntime.googleapis.com/api_method"

def consumerProject : String := "serviceruntime.googleapis.com/consumer_project"

def protocol : String := "/protocol"

def responseCode : String := "/response_code"

def responseCodeClass : String := "/response_code_class"

def statusCode : String := "/status_code"

/-- The service that calls. -/
def consumer : String := "/consumer_id"

def credential : String := "/credential_id"

/-- The labels of every monitored resource, in the order in which they are shown. -/
def ofResource : List String :=
  [location, uid, apiVersion, apiMethod, consumerProject, project, service]

end LabelKey

/-- The labels of an operation, with the called and the calling service put over them. -/
def Operation.resourceLabels (o : Operation) (service : String) : Labels :=
  (o.labels.insert LabelKey.service service).insert LabelKey.consumer o.consumer

namespace ExponentialBuckets

/-- Sizes in bytes: powers of ten from one on. -/
def sizes : ExponentialBuckets Binary64 := ⟨8, .ofInt 10, .ofInt 1⟩

/-- Times in seconds: powers of ten from a millionth on. -/
def times : ExponentialBuckets Binary64 := ⟨8, .ofInt 10, .ofRatio false 1 1000000⟩

end ExponentialBuckets

/-- The metrics that consumers of reports know. -/
inductive KnownMetric where
  | requestCount
  | requestCountByConsumer
  | requestSizes
  | totalLatencies
  | backendLatencies
  deriving DecidableEq, Repr, Inhabited

namespace KnownMetric

/-- Every known metric. -/
def all : List KnownMetric :=
  [.requestCount, .requestCountByConsumer, .totalLatencies, .backendLatencies, .requestSizes]

/-- The name of a metric. -/
def name : KnownMetric → String
  | requestCount => "serviceruntime.googleapis.com/api/producer/request_count"
  | requestCountByConsumer => "serviceruntime.googleapis.com/api/producer/by_consumer/request_count"
  | requestSizes => "serviceruntime.googleapis.com/api/producer/request_sizes"
  | totalLatencies => "serviceruntime.googleapis.com/api/producer/total_latencies"
  | backendLatencies => "serviceruntime.googleapis.com/api/producer/backend_latencies"

/-- The metric of a name. -/
def ofName? (s : String) : Option KnownMetric := all.find? fun m => m.name == s

/-- Names read back. -/
@[simp] theorem ofName?_name (m : KnownMetric) : ofName? m.name = some m := by
  cases m <;> decide

/-- The keys of the labels that values of a metric carry besides those of the resource. -/
def labelKeys : KnownMetric → List String
  | requestCount =>
    [LabelKey.protocol, LabelKey.responseCode, LabelKey.responseCodeClass, LabelKey.statusCode]
  | requestCountByConsumer =>
    [LabelKey.protocol, LabelKey.responseCode, LabelKey.responseCodeClass, LabelKey.credential,
      LabelKey.statusCode]
  | _ => []

/-- The layout of the distributions of a metric. -/
def layout? : KnownMetric → Option (ExponentialBuckets Binary64)
  | requestSizes => some .sizes
  | totalLatencies | backendLatencies => some .times
  | _ => none

end KnownMetric

/-- The label keys of a metric by its name; a metric that is not known has none. -/
def labelKeysOf (metric : String) : List String :=
  ((KnownMetric.ofName? metric).map (·.labelKeys)).getD []

/-- The layout of a metric's distributions by its name. -/
def layoutOf? (metric : String) : Option (ExponentialBuckets Binary64) :=
  (KnownMetric.ofName? metric).bind (·.layout?)

end ServiceControl
