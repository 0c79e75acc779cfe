import ServiceControl.Call.Json
import ServiceControl.Gateway.Deployment
import ServiceControl.Http.Message
import ServiceControl.Json.Term

/-!
# The gateway as a service

Calls are requests whose path ends in `:check` or `:report`; what stands between
`/v1/services/` and that end names the service for calls that do not name one themselves.
Beside the calls there are the health of the gateway and the pages of the consumers. Every
request has an id, and leaves one record.
-/

namespace ServiceControl.Http

/-- The id of a request. -/
inductive RequestId where
  /-- The one that the caller sent. -/
  | given (id : String)
  /-- A new one. -/
  | fresh
  deriving DecidableEq, Repr

/-- The header with the id of a request. -/
def requestIdHeader : String := "x-request-id"

/-- The id of a request: the caller's if it is a text that is not empty. -/
def Request.id (r : Request) : RequestId :=
  match r.headerText? requestIdHeader with
  | some id => if id = "" then .fresh else .given id
  | none => .fresh

/-- The size that a request announces; none counts as nothing. -/
def Request.announcedSize (r : Request) : Nat :=
  (((r.headerText? "content-length").bind fun s => Text.nat? s.toList).filter (· < 2 ^ 64)).getD 0

/-- What is recorded of a request once it was answered. -/
structure AccessRecord where
  status : Nat
  method : String
  target : String
  size : Nat
  id : RequestId
  deriving DecidableEq, Repr

/-- The record of a request and its response. -/
def AccessRecord.of (r : Request) (answer : Response) : AccessRecord :=
  ⟨answer.status, r.method, r.target.text, r.announcedSize, r.id⟩

/-- What the path of a call in front of the service's name is. -/
def servicesPath : String := "/v1/services/"

/-- What the path of a call ends in. -/
def callEnd : Method → String
  | .check => ":check"
  | .report => ":report"

/-- The service that a path names in front of the end of a call. -/
def serviceOf (path : String) : String := (Text.after? servicesPath path).getD ""

/-- The call that a path stands for, and the service that it names. -/
def callOf? (path : String) : Option (Method × String) :=
  match Text.before? (callEnd .check) path with
  | some rest => some (.check, serviceOf rest)
  | none => (Text.before? (callEnd .report) path).map fun rest => (.report, serviceOf rest)

/-- The name in a call, or that in its path if it has none. -/
def nameOr (named path : String) : String := if named = "" then path else named

/-- The wording for a body that is not what the call asks for. -/
def malformed : String := "Malformed request body"

/-- The largest body. -/
def maxBody : Nat := 2 * 1024 * 1024

/-- Answers a check. -/
def answerCheck (g : Gateway) (service : String) (body : ByteArray) : Response × Gateway :=
  match (Json.parse? body).bind CheckRequest.ofJson? with
  | none => (.text 400 malformed, g)
  | some call =>
    let (response, g) := g.check { call with service := nameOr call.service service }
    (.json response.toJson, g)

/-- Answers a report. -/
def answerReport (g : Gateway) (service : String) (body : ByteArray) : Response × Gateway :=
  match (Json.parse? body).bind ReportRequest.ofJson? with
  | none => (.text 400 malformed, g)
  | some call =>
    let (outcome, g) := g.report { call with service := nameOr call.service service }
    (match outcome with
      | .sent => .json (.obj [])
      | .lost => .bare 408
      | .closed => .text 503 Gateway.queueClosedMessage, g)

/-- Answers a call. -/
def answerCall (g : Gateway) (r : Request) : Response × Gateway :=
  if maxBody < r.body.size then
    (.text 413 "Failed to buffer the request body: length limit exceeded", g)
  else match callOf? r.target.path with
    | none => (.text 404 "Not found", g)
    | some (method, service) =>
      if r.method != "POST" then (.text 405 "Only POST is supported", g)
      else match method with
        | .check => answerCheck g service r.body
        | .report => answerReport g service r.body

/-- The version of the gateway. -/
def version : String := "0.1.0"

/-- The health of the gateway. -/
def health (g : Gateway) : Json :=
  .obj [("status", .str "ok"), ("version", .str version),
    ("config_digest", .ofOptionalText g.digest?)]

/-- The routes to the gateway's health, which has no place, and to the pages of
consumers by theirs. -/
def routes (p : Pipeline) : List (Route × Option Nat) :=
  (Route.parse? healthPath).toList.map (·, none) ++
    p.outlets.zipIdx.filterMap fun (o, place) => do
      return (← Route.parse? (← o.consumer.endpoint), some place)

/-- What a path leads to. -/
inductive Resource where
  | health
  | page (place : Nat) (consumer : Consumer)
  | call

/-- What a path leads to; every path that no route fits is that of a call. -/
def resourceAt (p : Pipeline) (path : String) : Resource :=
  match Route.find? (routes p) path with
  | none => .call
  | some none => .health
  | some (some place) => match p.outlets[place]? with
    | some o => .page place o.consumer
    | none => .call

/-- Answers a request, by its path. -/
def dispatch (g : Gateway) (r : Request) : Response × Gateway :=
  match resourceAt g.pipeline r.target.path with
  | .call => answerCall g r
  | .health => (if r.isReading then .json (health g) else .bare 405, g)
  | .page place consumer =>
    if r.isReading then
      let (page, pipeline) := g.pipeline.scrape place consumer
      (.page page, { g with pipeline })
    else (.bare 405, g)

/-- Answers a request, and records it. Without any time there is no answer but that. -/
def serve (g : Gateway) (r : Request) : Response × AccessRecord × Gateway :=
  let (answer, g) := if g.patience = 0 then (.bare 408, g) else dispatch g r
  let answer := if r.isHead then answer.withoutContent else answer
  (answer, .of r answer, g)

end ServiceControl.Http
