import ServiceControl.Gateway.Basic
import ServiceControl.Http.Route

/-!
# A gateway in its place

A gateway is started from settings, with a first reload whose failure is not fatal: it answers with
an empty configuration until a reload succeeds. When it is stopped, the queue is drained, the
batches are passed on and the checkers are given up.
-/

namespace ServiceControl

/-- What breaks a start off: a number in the settings that is too large for what it reserves, or an
endpoint that is no route or clashes with another. -/
inductive StartupFault where
  | queueTooLong
  | tooManyWorkers
  | endpoint (path : String)
  deriving DecidableEq, Repr

/-- Why a gateway does not start. -/
inductive StartupError where
  /-- The locator of the services document is of no use. -/
  | source (e : FetchError)
  /-- The file cannot be watched. -/
  | watch (e : FileError)
  | fault (e : StartupFault)
  deriving DecidableEq, Repr

/-- The wording of a fault. -/
def StartupFault.message : StartupFault → String
  | queueTooLong => "the queue is too long"
  | tooManyWorkers => "there are too many workers"
  | endpoint path => s!"nothing can be shown at {path}"

/-- The wording of a startup error. -/
def StartupError.message : StartupError → String
  | source e => s!"services source: {e.message}"
  | watch e => s!"services watcher: {e.message}"
  | fault e => e.message

/-- The most workers, each of which takes a machine word to keep. -/
def mostWorkers : Nat := 2 ^ 60 - 1

/-- What is too large in settings, if anything is. -/
def Settings.roomFault? (s : Settings) : Option StartupFault :=
  if ReportQueue.longest < s.reports.queueCapacity then some .queueTooLong
  else if mostWorkers < s.reports.workers then some .tooManyWorkers
  else none

/-- The path under which the gateway tells how it is. -/
def healthPath : String := "/healthz"

namespace Pipeline

/-- The first endpoint that cannot stand beside the others and the gateway's
own, if there is one. -/
def endpointFault? (p : Pipeline) : Option StartupFault :=
  (Http.Route.firstFault? (Http.Route.parse? healthPath).toList p.endpoints).map .endpoint

/-- The pipeline for settings, with its workers and batchers started. -/
def ofSettings (r : Registries) (s : Settings) : Pipeline :=
  (start { queue := .ofCapacity s.reports.queueCapacity, outlets := outletsOf r s }
    s.reports.workers).settle

end Pipeline

/-- A gateway with the source of its services document. -/
structure Deployment where
  gateway : Gateway
  source : Source
  /-- Whether a change of the file leads to a reload. -/
  isWatched : Bool

namespace Deployment

/-- Reloads from the files as they are. -/
def reload (d : Deployment) (f : Folder) : Option ReloadOutcome × Deployment :=
  let (outcome, gateway) := d.gateway.reload (f.fetch d.source)
  (outcome, { d with gateway })

/-- Takes notice of a change of the files. -/
def noticeChange (d : Deployment) (f : Folder) : Deployment :=
  if d.isWatched then (d.reload f).2 else d

/-- Whether a source can be watched, and is to be. -/
def watch (wanted : Bool) (f : Folder) (source : Source) : Except StartupError Bool :=
  match wanted, source.localPath? with
  | true, some path => match f.read path with
    | .ok _ | .error .isDirectory => .ok true
    | .error e => .error (.watch e)
  | _, _ => .ok false

/-- Starts a gateway. -/
def start (s : Settings) (r : Registries) (f : Folder) : Except StartupError Deployment := do
  let source ← (Source.ofLocator s.services.source).mapError .source
  if let some e := s.roomFault? then throw (.fault e)
  let isWatched ← watch s.services.watch f source
  let pipeline := Pipeline.ofSettings r s
  if let some e := pipeline.endpointFault? then throw (.fault e)
  let gateway : Gateway := {
    pipeline
    reloader := some { registries := r }
    patience := 1000 * s.listener.requestTimeout }
  return (({ gateway, source, isWatched } : Deployment).reload f).2

/-- Stops the gateway: reports that wait are delivered, batches are passed on,
checkers are given up. -/
def stop (d : Deployment) : Deployment :=
  let g := d.gateway
  let drained := { g.pipeline with queue := g.pipeline.queue.dropSenders }.settle
  { d with gateway := { g with pipeline := drained.closeBatchers, pool := g.pool.unloadAll } }

end Deployment

end ServiceControl
