import ServiceControl.Bundled.Kinds
import ServiceControl.Command.Line
import ServiceControl.Gateway.Deployment
import ServiceControl.Net.Reach
import ServiceControl.Settings.Text

/-!
# The gateway's command

The settings come from a file, if one is named, or are the defaults. Options on the command line go
over them, and the outcome has to be valid. The gateway starts once its address can be listened at.
-/

namespace ServiceControl.Command.Server

/-- The number of a port. -/
def port? (s : String) : Option Nat :=
  match Text.int? s.toList with
  | some (.ofNat n) => if n < 65536 then some n else none
  | _ => none

/-- A number of workers. -/
def workers? (s : String) : Option Nat := (Text.nat? s.toList).filter (· < 2 ^ 64)

/-- What the gateway's help shows. -/
def page : String := "\n".intercalate [
  "Check/report mediation gateway",
  "",
  "Usage: mixgate [OPTIONS]",
  "",
  "Options:",
  "  -c, --config <CONFIG>",
  "          Gateway settings (TOML). Defaults apply when omitted",
  "      --port <PORT>",
  "          Listener port, overriding `listener.bind_address`",
  "      --workers <WORKERS>",
  "          Report worker count",
  "      --report-consumers <REPORT_CONSUMERS>",
  "          Enabled report consumers, comma separated",
  "      --services <SERVICES>",
  "          Services configuration source: path, file:// or http(s):// URL",
  "      --log-level <LOG_LEVEL>",
  "          ",
  "  -h, --help",
  "          Print help",
  "  -V, --version",
  "          Print version",
  ""]

/-- The options of the gateway. -/
def form : Form where
  options := [
    { name := "config", letter := some 'c', accepts := (· != "") },
    { name := "port", accepts := fun s => (port? s).isSome },
    { name := "workers", accepts := fun s => (workers? s).isSome },
    { name := "report-consumers", isRepeatable := true },
    { name := "services" },
    { name := "log-level" }]
  page := page
  hasVersion := true

/-- Puts the options over settings. Names of consumers are separated by commas. -/
def apply (g : Given) (s : Settings) : Settings :=
  let bindAddress := match (g.value? "port").bind port? with
    | some port => Net.withPort s.listener.bindAddress port
    | none => s.listener.bindAddress
  let consumers := match g.values "report-consumers" with
    | [] => s.reports.consumers
    | texts => texts.flatMap (Text.split ',')
  { s with
    listener := { s.listener with bindAddress }
    reports := { s.reports with
      consumers
      workers := ((g.value? "workers").bind workers?).getD s.reports.workers }
    services := { s.services with source := (g.value? "services").getD s.services.source }
    observability := { s.observability with
      logLevel := (g.value? "log-level").getD s.observability.logLevel } }

/-- Why the gateway does not run. -/
inductive Refusal where
  | halt (h : Halt)
  | settings (e : SettingsError)
  /-- Nothing can listen at the address. -/
  | address (text : String)
  | startup (e : StartupError)
  deriving Repr

/-- The status that the process ends with. -/
def Refusal.exitCode : Refusal → Nat
  | halt h => h.exitCode
  | startup (.fault _) => 101
  | _ => 1

/-- The wording of a refusal. -/
def Refusal.message : Refusal → String
  | halt .version => "mixgate 0.1.0"
  | halt (.help page) => page
  | halt .usage => "Usage: mixgate [OPTIONS]"
  | settings e => e.message
  | address text => s!"cannot listen at {text}"
  | startup e => e.message

/-- The status that a running gateway ends with after a signal: an interrupt and a request to
terminate let it end in order, others leave no status. -/
def exitAfter (signal : Nat) : Option Nat := if signal = 2 ∨ signal = 15 then some 0 else none

/-- The settings for a command line. -/
def settings (g : Given) (f : Folder) : Except SettingsError Settings := do
  let s ← match g.value? "config" with
    | some path => Settings.load (f.read path).toOption
    | none => .ok {}
  (apply g s).validate

/-- Starts the gateway for a command line. -/
def start (args : List String) (f : Folder) (r : Registries) :
    Except Refusal (Settings × Deployment) :=
  match form.readAll args with
  | .error h => .error (.halt h)
  | .ok g =>
    match settings g f with
    | .error e => .error (.settings e)
    | .ok s =>
      if !Net.canListen s.listener.bindAddress then .error (.address s.listener.bindAddress)
      else match Deployment.start s r f with
        | .error e => .error (.startup e)
        | .ok d => .ok (s, d)

end ServiceControl.Command.Server
