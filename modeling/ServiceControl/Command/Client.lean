import ServiceControl.Call.Names
import ServiceControl.Command.Line
import ServiceControl.Http.Service
import ServiceControl.Json.Writer
import ServiceControl.Net.Endpoint
import ServiceControl.Net.Url

/-!
# The client's command

The client asks a gateway whether an operation may proceed, or reports values of metrics, and prints
what it is told. An answer that tells no success is an outcome like any other.
-/

namespace ServiceControl.Command.Client

/-- What the client is asked to do. -/
inductive Order where
  /-- To ask whether an operation may proceed. -/
  | check (service source : String) (callerIp : Option String) (operation : String)
  /-- To report a value for each of some metrics. -/
  | report (service source : String) (metrics : List (String × Int64))
  deriving Repr

/-- An order, and the address of the gateway that it goes to. -/
structure Errand where
  gateway : String
  order : Order
  deriving Repr

/-- The name and the value of a metric, separated by an equals sign. -/
def metric? (s : String) : Option (String × Int64) := do
  let (name, text) ← Text.cut? "=" s
  let n ← Text.int? text.toList
  if -2 ^ 63 ≤ n && n < 2 ^ 63 then return (name, Int64.ofInt n) else none

/-- The options in front of the command. -/
def form : Form where
  options := [{ name := "gateway", letter := some 'g' }]
  page := "\n".intercalate [
    "Send check and report calls to a mixgate instance",
    "",
    "Usage: mixgate-cli [OPTIONS] <COMMAND>",
    "",
    "Commands:",
    "  check   Ask whether an operation may proceed",
    "  report  Report int64 metric values",
    "  help    Print this message or the help of the given subcommand(s)",
    "",
    "Options:",
    "  -g, --gateway <GATEWAY>  [default: http://localhost:9092]",
    "  -h, --help               Print help",
    ""]

/-- The options of a check. -/
def checkForm : Form where
  options := [{ name := "dest" }, { name := "source" }, { name := "caller-ip" },
    { name := "operation-id" }]
  page := "\n".intercalate [
    "Ask whether an operation may proceed",
    "",
    "Usage: mixgate-cli check [OPTIONS] --dest <DEST>",
    "",
    "Options:",
    "      --dest <DEST>                  Destination service",
    "      --source <SOURCE>              Calling service (consumer id) [default: \"\"]",
    "      --caller-ip <CALLER_IP>        ",
    "      --operation-id <OPERATION_ID>  [default: cli-op]",
    "  -h, --help                         Print help",
    ""]

/-- The options of a report. -/
def reportForm : Form where
  options := [{ name := "dest" }, { name := "source" },
    { name := "metric", isRepeatable := true, accepts := fun s => (metric? s).isSome }]
  page := "\n".intercalate [
    "Report int64 metric values",
    "",
    "Usage: mixgate-cli report [OPTIONS] --dest <DEST>",
    "",
    "Options:",
    "      --dest <DEST>       ",
    "      --source <SOURCE>   [default: \"\"]",
    "      --metric <METRICS>  `name=value`, repeatable. Defaults to one request count",
    "  -h, --help              Print help",
    ""]

/-- What is shown to those who ask for help on help. -/
def helpPage : String := "\n".intercalate [
  "Print this message or the help of the given subcommand(s)",
  "",
  "Usage: mixgate-cli help [COMMAND]...",
  "",
  "Arguments:",
  "  [COMMAND]...  Print help for the subcommand(s)",
  ""]

/-- The order for a check. -/
def checkOf (g : Given) : Except Halt Order :=
  match g.value? "dest" with
  | some service => .ok (.check service ((g.value? "source").getD "") (g.value? "caller-ip")
      ((g.value? "operation-id").getD "cli-op"))
  | none => .error .usage

/-- The order for a report; without metrics one request is reported. -/
def reportOf (g : Given) : Except Halt Order :=
  match g.value? "dest" with
  | some service =>
    let metrics := (g.values "metric").filterMap metric?
    .ok (.report service ((g.value? "source").getD "")
      (if metrics.isEmpty then [(KnownMetric.requestCount.name, 1)] else metrics))
  | none => .error .usage

/-- Reads a command with its options. -/
def order : List String → Except Halt Order
  | "check" :: args => checkForm.readAll args >>= checkOf
  | "report" :: args => reportForm.readAll args >>= reportOf
  | ["help"] => .error (.help form.page)
  | ["help", "help"] => .error (.help helpPage)
  | ["help", "check"] => .error (.help checkForm.page)
  | ["help", "report"] => .error (.help reportForm.page)
  | _ => .error .usage

/-- Reads a command line. -/
def parse (args : List String) : Except Halt Errand := do
  let front ← form.read {} args
  let order ← order front.rest
  let given ← front.settle
  return ⟨(given.value? "gateway").getD "http://localhost:9092", order⟩

namespace Order

/-- The service that an order is about. -/
def service : Order → String
  | check service _ _ _ => service
  | report service _ _ => service

/-- The method that an order calls. -/
def method : Order → Method
  | check _ _ _ _ => .check
  | report _ _ _ => .report

/-- The call that a check sends. -/
def checkRequest (service source : String) (callerIp : Option String) (operation : String) :
    CheckRequest where
  service := service
  operation := {
    id := operation
    consumer := source
    labels := match callerIp with
      | some ip => .ofList [(callerIpKey, ip)]
      | none => .empty }

/-- The call that a report sends. -/
def reportRequest (service source : String) (metrics : List (String × Int64)) : ReportRequest where
  service := service
  operations := [{
    id := "cli-report"
    consumer := source
    metrics := metrics.map fun (name, value) => { name, values := [{ int64 := some value }] } }]

/-- The body that is sent. -/
def body : Order → Json
  | check service source callerIp operation =>
    (checkRequest service source callerIp operation).toJson
  | report service source metrics => (reportRequest service source metrics).toJson

end Order

/-- Whether an address on the web leads to an endpoint. -/
def leadsTo (url : Net.Url) (e : Net.Endpoint) : Bool :=
  url.scheme = "http" && url.host = some (.address e.address) && url.port.getD 80 = e.port

namespace Errand

/-- The address that the call is sent to. -/
def address (e : Errand) : String :=
  let base := String.ofList (e.gateway.toList.reverse.dropWhile (· == '/')).reverse
  base ++ Http.servicesPath ++ e.order.service ++ Http.callEnd e.order.method

/-- The request that is sent to a URL. -/
def requestTo (e : Errand) (url : Net.Url) : Http.Request where
  method := "POST"
  target := .origin url.pathText url.query
  headers := [⟨"content-type", "application/json".toUTF8.toList⟩]
  body := e.order.body.compact.toUTF8

/-- The URL that a request goes to; nothing if the address is none, or too long. -/
def url? (e : Errand) : Option Net.Url :=
  (Net.Url.parse e.address).toOption.filter (·.text.utf8ByteSize ≤ Http.Target.maxLength)

/-- The request that reaches a gateway at an endpoint; nothing if none is sent, or to another. -/
def request? (e : Errand) (listening : Net.Endpoint) : Option Http.Request :=
  (e.url?.filter (leadsTo · listening)).map e.requestTo

end Errand

/-- What the client leaves behind. -/
structure Outcome where
  exitCode : Nat
  output : String := ""
  errors : String := ""
  deriving Repr

/-- What the client prints for an answer. -/
def report (answer : Http.Response) : Outcome :=
  if answer.isSuccess then
    match answer.content with
    | .json j => { exitCode := 0, output := (j.canonical?.getD j).pretty 0 ++ "\n" }
    | _ => { exitCode := 1 }
  else
    let status := s!"{answer.status} {Http.Response.reason answer.status}"
    { exitCode := 0
      errors := s!"Error: gateway returned status {status}\nResponse: {answer.content.asText}\n" }

/-- Carries an errand out, with a gateway that listens at an endpoint. -/
def carryOut (e : Errand) (listening : Net.Endpoint) (g : Gateway) : Outcome × Gateway :=
  match e.request? listening with
  | none => ({ exitCode := 1 }, g)
  | some r =>
    let (answer, _, g) := Http.serve g r
    (report answer, g)

/-- Runs the client for a command line. -/
def run (args : List String) (listening : Net.Endpoint) (g : Gateway) : Outcome × Gateway :=
  match parse args with
  | .error (.help page) => ({ exitCode := 0, output := page }, g)
  | .error h => ({ exitCode := h.exitCode }, g)
  | .ok e => carryOut e listening g

end ServiceControl.Command.Client
