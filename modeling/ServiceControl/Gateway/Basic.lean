import ServiceControl.Checking.Pool
import ServiceControl.Reload.Reloader
import ServiceControl.Reports.Pipeline

/-!
# The gateway

A check is answered at once by the pool of checkers. A report is only put into the queue, so the
caller does not wait for the consumers. A reload that brings a new configuration changes the pool.
-/

namespace ServiceControl

/-- What answers calls. -/
structure Gateway where
  pool : CheckerPool := {}
  pipeline : Pipeline
  /-- What takes in new configurations, if there are any to come. -/
  reloader : Option Reloader := none
  /-- How long a call may take, in milliseconds. -/
  patience : Nat := 30000

namespace Gateway

/-- Answers a check. -/
def check (g : Gateway) (request : CheckRequest) : CheckResponse × Gateway :=
  let (response, pool) := g.pool.check request
  (response, { g with pool })

/-- Counts a report that was put into the queue. -/
def countReport (m : Metrics) : Pipeline.Sending → Metrics
  | .sent => m.count .reportsEnqueued
  | _ => m

/-- Puts a report into the queue. -/
def report (g : Gateway) (r : ReportRequest) : Pipeline.Sending × Gateway :=
  let (outcome, p) := g.pipeline.send g.patience r
  (outcome, { g with pipeline := { p with metrics := countReport p.metrics outcome } })

/-- The wording for a report that the queue does not take any more. -/
def queueClosedMessage : String := "report queue is closed"

/-- Takes in what a fetch brought. -/
def reload (g : Gateway) (fetched : Except FetchError ByteArray) : Option ReloadOutcome × Gateway :=
  match g.reloader with
  | none => (none, g)
  | some m =>
    let (outcome, m) := m.receive fetched
    let pool := match outcome with
      | .applied _ => g.pool.change (m.current?.getD .empty)
      | _ => g.pool
    (some outcome, { g with pool, reloader := some m })

/-- The digest of the document in force. -/
def digest? (g : Gateway) : Option String := g.reloader.bind (·.digest)

/-- Everything that was counted. -/
def metrics (g : Gateway) : Metrics := g.pool.metrics ++ g.pipeline.metrics

/-- Lets the workers and the consumers do what they can do now. -/
def settle (g : Gateway) : Gateway := { g with pipeline := g.pipeline.settle }

end Gateway

end ServiceControl
